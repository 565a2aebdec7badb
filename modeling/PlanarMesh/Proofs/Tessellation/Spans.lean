/-! # Ranges of a buffer

Lists that are put one behind the other in a buffer are found again by their ranges.
A slice is checked: a range that leaves the buffer has none.
-/

namespace PlanarMesh

variable {α β : Type}

/-! ## Ranges -/

structure Span where
  start : Nat
  stop : Nat
deriving DecidableEq, Repr

namespace Span

def size (span : Span) : Nat :=
  span.stop - span.start

def positions (span : Span) : List Nat :=
  List.range' span.start span.size

/-- The items in a span, which has to lie within the list. -/
def slice? (span : Span) (items : List α) : Option (List α) :=
  if span.start ≤ span.stop ∧ span.stop ≤ items.length then
    some ((items.drop span.start).take span.size)
  else
    none

@[simp] theorem size_mk (start size : Nat) : (Span.mk start (start + size)).size = size :=
  Nat.add_sub_cancel_left start size

theorem slice?_append (front middle back : List α) :
    (Span.mk front.length (front.length + middle.length)).slice?
        (front ++ (middle ++ back)) = some middle := by
  have inRange : front.length ≤ front.length + middle.length ∧
      front.length + middle.length ≤ (front ++ (middle ++ back)).length := by
    simp only [List.length_append]
    omega
  rw [slice?, if_pos inRange, size_mk, List.drop_left, List.take_left]

theorem size_of_slice? {span : Span} {items slice : List α}
    (sliced : span.slice? items = some slice) : span.size = slice.length := by
  rw [slice?] at sliced
  split at sliced
  · rename_i inRange
    cases sliced
    rw [List.length_take, List.length_drop, size]
    omega
  · cases sliced

theorem slice?_zero (items back : List α) :
    (Span.mk 0 items.length).slice? (items ++ back) = some items := by
  have whole := slice?_append [] items back
  rwa [List.length_nil, Nat.zero_add] at whole

end Span

/-! ## Consecutive ranges -/

def spansFrom (start : Nat) : List (List α) → List Span
  | [] => []
  | items :: rest =>
      ⟨start, start + items.length⟩ :: spansFrom (start + items.length) rest

def Consecutive (start stop : Nat) : List Span → Prop
  | [] => start = stop
  | span :: rest =>
      span.start = start ∧ start ≤ span.stop ∧ Consecutive span.stop stop rest

theorem consecutive_spansFrom (start : Nat) (lists : List (List α)) :
    Consecutive start (start + lists.flatten.length) (spansFrom start lists) := by
  induction lists generalizing start with
  | nil => rfl
  | cons items rest induction =>
      rw [List.flatten_cons, List.length_append, ← Nat.add_assoc]
      exact ⟨rfl, Nat.le_add_right _ _, induction (start + items.length)⟩

theorem spansFrom_append_singleton (start : Nat) (lists : List (List α))
    (last : List α) :
    spansFrom start (lists ++ [last]) =
      spansFrom start lists ++
        [⟨start + lists.flatten.length, start + lists.flatten.length + last.length⟩] := by
  induction lists generalizing start with
  | nil => rfl
  | cons items rest induction =>
      rw [List.cons_append, spansFrom, induction, spansFrom, List.flatten_cons,
        List.length_append, ← Nat.add_assoc]
      rfl

@[simp] theorem spansFrom_map (change : α → β) (start : Nat) (lists : List (List α)) :
    spansFrom start (lists.map (List.map change)) = spansFrom start lists := by
  induction lists generalizing start with
  | nil => rfl
  | cons items rest induction =>
      rw [List.map_cons, spansFrom, induction, List.length_map, spansFrom]

@[simp] theorem length_spansFrom (start : Nat) (lists : List (List α)) :
    (spansFrom start lists).length = lists.length := by
  induction lists generalizing start with
  | nil => rfl
  | cons items rest induction =>
      rw [spansFrom, List.length_cons, induction, List.length_cons]

theorem map_slice?_spansFrom (front : List α) (lists : List (List α)) :
    (spansFrom front.length lists).map (·.slice? (front ++ lists.flatten)) =
      lists.map some := by
  induction lists generalizing front with
  | nil => rfl
  | cons items rest induction =>
      have continued := induction (front ++ items)
      rw [List.length_append, List.append_assoc] at continued
      rw [spansFrom, List.flatten_cons, List.map_cons, List.map_cons, Span.slice?_append,
        continued]

end PlanarMesh
