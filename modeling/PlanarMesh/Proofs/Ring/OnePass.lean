import PlanarMesh.Proofs.Ring.Places
import PlanarMesh.Ring.Basic

/-! # Duplicate removal as one pass over the whole loop

`duplicatePositions` counts in what is left at each moment, since the vertices are
taken out one by one. `duplicatePlaces` names the same vertices by their places in
the whole loop. Erasing at the former leaves exactly the items outside the latter,
in the ring and in every list that is edited with it.
-/

namespace PlanarMesh

variable {α : Type}

/-- The places of the vertices that a pass takes out of a loop of `size` vertices.
It has come to `place`; `removed` vertices went before, and `first` is the first one
that stayed. A vertex goes if it coincides with its successor in the whole loop, the
last one with the first that stayed, as long as more than two are left. -/
def duplicatePlacesFrom (size place removed : Nat) (first : Option Point3) :
    List Point3 → List Nat
  | [] => []
  | vertex :: ahead =>
      if removed + 2 < size ∧ coincide vertex (ahead.head?.getD (first.getD vertex)) then
        place :: duplicatePlacesFrom size (place + 1) (removed + 1) first ahead
      else
        duplicatePlacesFrom size (place + 1) removed (first.or (some vertex)) ahead

def duplicatePlaces (loop : List Point3) : List Nat :=
  duplicatePlacesFrom loop.length 0 0 none loop

/-! ## Places -/

theorem duplicatePlacesFrom_eq_nil {size removed : Nat} (limit : size ≤ removed + 2)
    (place : Nat) (first : Option Point3) (vertices : List Point3) :
    duplicatePlacesFrom size place removed first vertices = [] := by
  induction vertices generalizing place first with
  | nil => rfl
  | cons vertex ahead induction =>
      have done : ¬(removed + 2 < size ∧
          coincide vertex (ahead.head?.getD (first.getD vertex)) = true) := by
        intro more
        omega
      rw [duplicatePlacesFrom, if_neg done]
      exact induction (place + 1) (first.or (some vertex))

theorem le_of_mem_duplicatePlacesFrom {size place removed goes : Nat}
    {first : Option Point3} {vertices : List Point3}
    (member : goes ∈ duplicatePlacesFrom size place removed first vertices) :
    place ≤ goes := by
  induction vertices generalizing place removed first with
  | nil => cases member
  | cons vertex ahead induction =>
      rw [duplicatePlacesFrom] at member
      split at member
      · rcases List.mem_cons.mp member with equal | later
        · exact Nat.le_of_eq equal.symm
        · exact Nat.le_of_succ_le (induction later)
      · exact Nat.le_of_succ_le (induction member)

theorem not_mem_duplicatePlacesFrom (size place removed : Nat) (first : Option Point3)
    (vertices : List Point3) :
    place ∉ duplicatePlacesFrom size (place + 1) removed first vertices := by
  intro member
  have later := le_of_mem_duplicatePlacesFrom member
  omega

theorem length_outsideFrom_duplicatePlacesFrom (size place removed : Nat)
    (first : Option Point3) (vertices : List Point3) (items : List α)
    (equal : items.length = vertices.length) :
    (outsideFrom (duplicatePlacesFrom size place removed first vertices)
        place items).length +
      (duplicatePlacesFrom size place removed first vertices).length = items.length := by
  induction vertices generalizing place removed first items with
  | nil =>
      rw [duplicatePlacesFrom, outsideFrom_no_places]
      rfl
  | cons vertex ahead induction =>
      cases items with
      | nil => simp at equal
      | cons item rest =>
          have restEqual : rest.length = ahead.length := by simpa using equal
          rw [duplicatePlacesFrom]
          split
          · have tail := induction (place + 1) (removed + 1) first rest restEqual
            rw [outsideFrom_cons_of_mem List.mem_cons_self,
              outsideFrom_cons_of_lt (Nat.lt_add_one place)]
            simp only [List.length_cons]
            omega
          · have tail := induction (place + 1) removed (first.or (some vertex)) rest
              restEqual
            rw [outsideFrom_cons_of_not_mem (not_mem_duplicatePlacesFrom _ _ _ _ _)]
            simp only [List.length_cons]
            omega

/-! ## Erasing -/

theorem le_of_mem_duplicatePositions {kept position : Nat} {first : Option Point3}
    {vertices : List Point3}
    (member : position ∈ duplicatePositions kept first vertices) : kept ≤ position := by
  induction vertices generalizing kept first with
  | nil => cases member
  | cons vertex ahead induction =>
      rw [duplicatePositions] at member
      split at member
      · cases member
      · split at member
        · rcases List.mem_cons.mp member with equal | later
          · exact Nat.le_of_eq equal.symm
          · exact induction later
        · exact Nat.le_of_succ_le (induction member)

theorem eraseAll_of_length_le {positions : List Nat} {items : List α}
    (beyond : ∀ position ∈ positions, items.length ≤ position) :
    eraseAll positions items = items := by
  induction positions with
  | nil => rfl
  | cons position rest induction =>
      change eraseAll rest (items.eraseIdx position) = items
      rw [List.eraseIdx_of_length_le (beyond position List.mem_cons_self)]
      exact induction fun later member => beyond later (List.mem_cons_of_mem position member)

theorem eraseAll_cons_append_cons {front : List α} {kept : Nat}
    (frontEqual : front.length = kept) (positions : List Nat) (item : α)
    (rest : List α) :
    eraseAll (kept :: positions) (front ++ item :: rest) =
      eraseAll positions (front ++ rest) := by
  change eraseAll positions ((front ++ item :: rest).eraseIdx kept) = _
  rw [List.eraseIdx_append_of_length_le (Nat.le_of_eq frontEqual), frontEqual,
    Nat.sub_self, List.eraseIdx_zero, List.tail_cons]

/-- The pass in step with a list of any length: `front` is what it has kept of the
list, `back` is what it has not come to. -/
theorem eraseAll_duplicatePositions_append (vertices : List Point3)
    (size place kept removed : Nat) (first : Option Point3) (front back : List α)
    (placeEqual : place = kept + removed) (sizeEqual : size = place + vertices.length)
    (frontEqual : front.length = kept) :
    eraseAll (duplicatePositions kept first vertices) (front ++ back) =
      front ++ outsideFrom (duplicatePlacesFrom size place removed first vertices)
        place back := by
  induction vertices generalizing place kept removed first front back with
  | nil =>
      rw [duplicatePositions, duplicatePlacesFrom, outsideFrom_no_places]
      rfl
  | cons vertex ahead induction =>
      rw [List.length_cons] at sizeEqual
      cases back with
      | nil =>
          -- A short list has come to its end; the ring goes on without it.
          rw [outsideFrom_nil]
          apply eraseAll_of_length_le
          intro position member
          have later := le_of_mem_duplicatePositions member
          simp only [List.append_nil]
          omega
      | cons item rest =>
          rw [duplicatePositions]
          split
          next limit =>
            have stop : size ≤ removed + 2 := by omega
            rw [duplicatePlacesFrom_eq_nil stop, outsideFrom_no_places]
            rfl
          next more =>
            have left : removed + 2 < size := by omega
            rw [duplicatePlacesFrom]
            split
            next same =>
              rw [if_pos ⟨left, same⟩, outsideFrom_cons_of_mem List.mem_cons_self,
                outsideFrom_cons_of_lt (Nat.lt_add_one place),
                eraseAll_cons_append_cons frontEqual]
              exact induction (place + 1) kept (removed + 1) first front rest
                (by omega) (by omega) frontEqual
            next different =>
              have stays : ¬(removed + 2 < size ∧
                  coincide vertex (ahead.head?.getD (first.getD vertex)) = true) :=
                fun goes => different goes.2
              rw [if_neg stays,
                outsideFrom_cons_of_not_mem (not_mem_duplicatePlacesFrom _ _ _ _ _)]
              have moved := induction (place + 1) (kept + 1) removed
                (first.or (some vertex)) (front ++ [item]) rest (by omega) (by omega)
                (by simp [frontEqual])
              rw [List.append_assoc, List.append_assoc] at moved
              exact moved

theorem eraseAll_duplicatePositions (loop : List Point3) (items : List α) :
    eraseAll (duplicatePositions 0 none loop) items =
      outside (duplicatePlaces loop) items :=
  eraseAll_duplicatePositions_append loop loop.length 0 0 0 none [] items rfl
    (Nat.zero_add _).symm rfl

theorem length_duplicatePositions (vertices : List Point3)
    (size place kept removed : Nat) (first : Option Point3)
    (placeEqual : place = kept + removed) (sizeEqual : size = place + vertices.length) :
    (duplicatePositions kept first vertices).length =
      (duplicatePlacesFrom size place removed first vertices).length := by
  induction vertices generalizing place kept removed first with
  | nil => rfl
  | cons vertex ahead induction =>
      rw [List.length_cons] at sizeEqual
      rw [duplicatePositions]
      split
      next limit => rw [duplicatePlacesFrom_eq_nil (by omega)]
      next more =>
        have left : removed + 2 < size := by omega
        rw [duplicatePlacesFrom]
        split
        next same =>
          rw [if_pos ⟨left, same⟩, List.length_cons, List.length_cons,
            induction (place + 1) kept (removed + 1) first (by omega) (by omega)]
        next different =>
          rw [if_neg fun goes => different goes.2]
          exact induction (place + 1) (kept + 1) removed (first.or (some vertex))
            (by omega) (by omega)

end PlanarMesh
