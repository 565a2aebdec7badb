import Mathlib.Data.List.Basic

/-! # Items outside given places

Removing entries from a list one by one shifts the positions of all later entries.
Here the entries that go are named by their places in the whole list, so that lists
edited in step can be compared place by place.
-/

namespace PlanarMesh

variable {α β : Type}

/-- The items outside the given places, in order. Places are counted from `start`,
where the first item stands. -/
def outsideFrom (places : List Nat) (start : Nat) (items : List α) : List α :=
  ((items.zipIdx start).filter fun entry => decide (entry.2 ∉ places)).map (·.1)

def outside (places : List Nat) (items : List α) : List α :=
  outsideFrom places 0 items

example : outside [1, 2] ["a", "b", "c", "d"] = ["a", "d"] := rfl

@[simp] theorem outsideFrom_nil (places : List Nat) (start : Nat) :
    outsideFrom places start ([] : List α) = [] := rfl

theorem outsideFrom_cons_of_mem {places : List Nat} {start : Nat}
    (member : start ∈ places) (item : α) (rest : List α) :
    outsideFrom places start (item :: rest) = outsideFrom places (start + 1) rest := by
  simp [outsideFrom, member]

theorem outsideFrom_cons_of_not_mem {places : List Nat} {start : Nat}
    (notMember : start ∉ places) (item : α) (rest : List α) :
    outsideFrom places start (item :: rest) =
      item :: outsideFrom places (start + 1) rest := by
  simp [outsideFrom, notMember]

theorem outsideFrom_cons_of_lt {place start : Nat} (before : place < start)
    (places : List Nat) (items : List α) :
    outsideFrom (place :: places) start items = outsideFrom places start items := by
  induction items generalizing start with
  | nil => rfl
  | cons item rest induction =>
      have different : start ≠ place := by omega
      have tail := induction (Nat.lt_succ_of_lt before)
      by_cases member : start ∈ places
      · rw [outsideFrom_cons_of_mem (List.mem_cons_of_mem place member),
          outsideFrom_cons_of_mem member, tail]
      · have notMember : start ∉ place :: places := by simp [different, member]
        rw [outsideFrom_cons_of_not_mem notMember,
          outsideFrom_cons_of_not_mem member, tail]

@[simp] theorem outsideFrom_no_places (start : Nat) (items : List α) :
    outsideFrom [] start items = items := by
  induction items generalizing start with
  | nil => rfl
  | cons item rest induction =>
      rw [outsideFrom_cons_of_not_mem List.not_mem_nil, induction]

@[simp] theorem outside_no_places (items : List α) : outside [] items = items :=
  outsideFrom_no_places 0 items

theorem outsideFrom_sublist (places : List Nat) (start : Nat) (items : List α) :
    (outsideFrom places start items).Sublist items := by
  have filtered := (List.filter_sublist
    (p := fun entry : α × Nat => decide (entry.2 ∉ places)) (l := items.zipIdx start)).map
      Prod.fst
  rwa [List.zipIdx_map_fst] at filtered

theorem outside_sublist (places : List Nat) (items : List α) :
    (outside places items).Sublist items :=
  outsideFrom_sublist places 0 items

theorem mem_outside {places : List Nat} {items : List α} {place : Nat} {item : α}
    (found : items[place]? = some item) (stays : place ∉ places) :
    item ∈ outside places items := by
  apply List.mem_map.mpr
  refine ⟨(item, place), ?_, rfl⟩
  rw [List.mem_filter]
  exact ⟨List.mk_mem_zipIdx_iff_getElem?.mpr found, decide_eq_true stays⟩

theorem length_outsideFrom (places : List Nat) (start : Nat) (left : List α)
    (right : List β) (equal : left.length = right.length) :
    (outsideFrom places start left).length =
      (outsideFrom places start right).length := by
  induction left generalizing start right with
  | nil =>
      cases right with
      | nil => rfl
      | cons item rest => simp at equal
  | cons item rest induction =>
      cases right with
      | nil => simp at equal
      | cons other others =>
          have tail := induction (start + 1) others (by simpa using equal)
          by_cases member : start ∈ places
          · rw [outsideFrom_cons_of_mem member, outsideFrom_cons_of_mem member, tail]
          · rw [outsideFrom_cons_of_not_mem member, outsideFrom_cons_of_not_mem member,
              List.length_cons, List.length_cons, tail]

theorem outsideFrom_zip (places : List Nat) (start : Nat) (left : List α)
    (right : List β) :
    outsideFrom places start (left.zip right) =
      (outsideFrom places start left).zip (outsideFrom places start right) := by
  induction left generalizing start right with
  | nil => simp
  | cons item rest induction =>
      cases right with
      | nil => simp
      | cons other others =>
          rw [List.zip_cons_cons]
          by_cases member : start ∈ places
          · simp only [outsideFrom_cons_of_mem member]
            exact induction (start + 1) others
          · simp only [outsideFrom_cons_of_not_mem member, List.zip_cons_cons]
            rw [induction (start + 1) others]

end PlanarMesh
