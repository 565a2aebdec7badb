import Mathlib.Algebra.Group.Nat.Even
import Mathlib.Data.List.Rotate
import PlanarMesh.Geometry.Plane
import PlanarMesh.Proofs.Number.Laws

/-! # Even-odd containment

Going round a loop, every edge that crosses the ray changes the side. So what counts is
whether the number of these edges is odd, and neither the vertex from which the round
starts nor a repeated vertex matters. An edge between vertices of one height crosses
nothing and is passed by before anything is divided by its height.
-/

namespace PlanarMesh

/-! ## Edges -/

section Edges

variable {α : Type}

theorem predecessorPairs_concat (front : List α) (last : α) :
    predecessorPairs (front ++ [last]) = (last :: front).zip (front ++ [last]) := by
  -- The longer list that is paired ends with a vertex that finds no partner.
  have cut : (last :: front ++ [last]).zip (front ++ [last] ++ []) =
      (last :: front).zip (front ++ [last]) ++ [last].zip [] :=
    List.zip_append (by simp)
  rw [List.append_nil, List.zip_nil_right, List.append_nil] at cut
  rw [← cut]
  cases front with
  | nil => rfl
  | cons first rest => simp [predecessorPairs]

theorem predecessorPairs_eq_zip (loop : List α) :
    predecessorPairs loop = (loop.rotate (loop.length - 1)).zip loop := by
  rcases List.eq_nil_or_concat loop with rfl | ⟨front, last, rfl⟩
  · rfl
  · rw [List.concat_eq_append, predecessorPairs_concat, List.length_append,
      List.length_singleton, Nat.add_sub_cancel, List.rotate_append_length_eq]
    rfl

theorem predecessorPairs_rotate (loop : List α) (places : Nat) :
    predecessorPairs (loop.rotate places) = (predecessorPairs loop).rotate places := by
  rw [predecessorPairs_eq_zip, predecessorPairs_eq_zip, List.length_rotate,
    List.rotate_rotate, Nat.add_comm, ← List.rotate_rotate]
  exact (List.zipWith_rotate_distrib Prod.mk _ _ places (List.length_rotate _ _)).symm

def placeBefore {size : Nat} (place : Fin size) : Fin size :=
  ⟨(place.val + (size - 1)) % size, Nat.mod_lt _ place.pos⟩

theorem predecessorPairs_eq_map (loop : List α) :
    predecessorPairs loop = (List.finRange loop.length).map fun place =>
      (loop.get (placeBefore place), loop.get place) := by
  rw [predecessorPairs_eq_zip]
  apply List.ext_getElem
  · simp
  · intro place _ _
    simp [placeBefore, List.getElem_rotate]

/-- A loop with copies of each vertex next to it, as many as are given for its place. -/
def withCopies (copies : Nat → Nat) (loop : List α) : List α :=
  loop.zipIdx.flatMap fun (vertex, place) => List.replicate (copies place + 1) vertex

theorem getLast?_withCopies (copies : Nat → Nat) (loop : List α) :
    (withCopies copies loop).getLast? = loop.getLast? := by
  rcases List.eq_nil_or_concat loop with rfl | ⟨front, last, rfl⟩
  · rfl
  · simp [withCopies, List.zipIdx_append, List.getLast?_replicate]

end Edges

/-! ## Parity -/

theorem foldl_toggle {α : Type} (toggles : α → Bool) (items : List α) (value : Bool) :
    items.foldl (fun value item => if toggles item then !value else value) value =
      (value ^^ decide (Odd (items.countP toggles))) := by
  induction items generalizing value with
  | nil => simp
  | cons item rest induction =>
      rw [List.foldl_cons, induction]
      cases own : toggles item with
      | false => simp [own]
      | true => simp [own, Nat.odd_add_one, -Nat.not_odd_iff_even]

namespace Loop

/-- How many edges of a loop cross the ray that leaves `point` to the right. -/
def crossings (loop : List Point2) (point : Point2) : Nat :=
  (List.finRange loop.length).countP fun place =>
    crossesRight (loop.get (placeBefore place)) (loop.get place) point

theorem crossings_eq (loop : List Point2) (point : Point2) :
    crossings loop point =
      (predecessorPairs loop).countP fun edge => crossesRight edge.1 edge.2 point := by
  rw [predecessorPairs_eq_map, List.countP_map]
  rfl

theorem contains_eq (loop : List Point2) (point : Point2) :
    contains loop point = decide (Odd (crossings loop point)) := by
  have parity := foldl_toggle (fun edge => crossesRight edge.1 edge.2 point)
    (predecessorPairs loop) false
  rw [Bool.false_xor] at parity
  rw [crossings_eq]
  exact parity

theorem crossings_rotate (loop : List Point2) (places : Nat) (point : Point2) :
    crossings (loop.rotate places) point = crossings loop point := by
  rw [crossings_eq, crossings_eq, predecessorPairs_rotate]
  exact (List.rotate_perm _ places).countP_eq _

theorem contains_rotate (loop : List Point2) (places : Nat) (point : Point2) :
    contains (loop.rotate places) point = contains loop point := by
  rw [contains_eq, contains_eq, crossings_rotate]

/-! ## Heights -/

theorem ne_of_straddles {previous current point : Point2}
    (passes : straddles previous current point = true) :
    (previous.v == current.v) = false := by
  cases level : previous.v == current.v with
  | false => rfl
  | true =>
      have sides := Number.lt_iff_of_beq level point.v
      rw [straddles, decide_eq_decide.mpr sides, bne_self_eq_false] at passes
      cases passes

theorem straddles_self (vertex point : Point2) : straddles vertex vertex point = false :=
  bne_self_eq_false _

/-! ## One round -/

/-- A round along a loop, with the edges whose crossing was computed. -/
structure Round where
  inside : Bool
  previous : Point2
  divided : List (Point2 × Point2)

namespace Round

/-- Goes on to the next vertex. The crossing is computed, which takes a division, only if
the edge passes the height of the point. -/
def step (point : Point2) (round : Round) (current : Point2) : Round :=
  if straddles round.previous current point then
    { inside :=
        if point.u < crossing round.previous current point then !round.inside
        else round.inside
      previous := current
      divided := round.divided ++ [(round.previous, current)] }
  else
    { round with previous := current }

theorem step_eq (point : Point2) (round : Round) (current : Point2) :
    step point round current =
      { inside :=
          if crossesRight round.previous current point then !round.inside
          else round.inside
        previous := current
        divided := round.divided ++
          [(round.previous, current)].filter fun edge =>
            straddles edge.1 edge.2 point } := by
  cases passes : straddles round.previous current point with
  | false => simp [step, crossesRight, passes]
  | true => simp [step, crossesRight, passes]

theorem foldl_step (point : Point2) (loop : List Point2) (round : Round) :
    loop.foldl (step point) round =
      { inside := ((round.previous :: loop).zip loop).foldl
          (fun inside edge => if crossesRight edge.1 edge.2 point then !inside else inside)
          round.inside
        previous := loop.getLast?.getD round.previous
        divided := round.divided ++
          ((round.previous :: loop).zip loop).filter fun edge =>
            straddles edge.1 edge.2 point } := by
  -- The previous vertex is carried along, so the edges are the vertices paired with
  -- the same list one behind.
  induction loop generalizing round with
  | nil => simp
  | cons vertex rest induction =>
      have divided : [(round.previous, vertex)] ++ (vertex :: rest).zip rest =
          (round.previous :: vertex :: rest).zip (vertex :: rest) := rfl
      rw [List.foldl_cons, induction, step_eq, List.getLast?_cons, ← divided,
        List.filter_append, List.append_assoc]
      rfl

theorem step_previous (point : Point2) (round : Round) :
    step point round round.previous = round := by
  rw [step, straddles_self]
  rfl

theorem previous_step (point : Point2) (round : Round) (current : Point2) :
    (step point round current).previous = current := by
  rw [step_eq]

theorem foldl_step_replicate (point : Point2) (round : Round) (vertex : Point2)
    (copies : Nat) :
    (List.replicate (copies + 1) vertex).foldl (step point) round =
      step point round vertex := by
  induction copies with
  | zero => rfl
  | succ copies induction =>
      have stays := step_previous point (step point round vertex)
      rw [previous_step] at stays
      rw [List.replicate_succ', List.foldl_concat, induction, stays]

theorem foldl_step_withCopies (point : Point2) (copies : Nat → Nat) (loop : List Point2)
    (round : Round) :
    (withCopies copies loop).foldl (step point) round = loop.foldl (step point) round :=
  calc (withCopies copies loop).foldl (step point) round
    _ = loop.zipIdx.foldl (fun round placed => step point round placed.1) round := by
      rw [withCopies, List.foldl_flatMap]
      simp only [foldl_step_replicate]
    _ = (loop.zipIdx.map (·.1)).foldl (step point) round := List.foldl_map.symm
    _ = loop.foldl (step point) round := by rw [List.zipIdx_map_fst]

end Round

def round? (loop : List Point2) (point : Point2) : Option Round := do
  let last ← loop.getLast?
  some (loop.foldl (Round.step point) ⟨false, last, []⟩)

theorem round?_eq (loop : List Point2) (point : Point2) :
    round? loop point = loop.getLast?.map fun last =>
      { inside := contains loop point
        previous := last
        divided := (predecessorPairs loop).filter fun edge =>
          straddles edge.1 edge.2 point } := by
  cases loop with
  | nil => rfl
  | cons first rest =>
      have last : (first :: rest).getLast? =
          some ((first :: rest).getLast (List.cons_ne_nil first rest)) :=
        List.getLast?_eq_some_getLast _
      rw [round?, last]
      change some _ = some _
      rw [Round.foldl_step, last]
      rfl

theorem round?_withCopies (copies : Nat → Nat) (loop : List Point2) (point : Point2) :
    round? (withCopies copies loop) point = round? loop point := by
  rw [round?, round?, getLast?_withCopies]
  simp only [Round.foldl_step_withCopies]

theorem contains_withCopies (copies : Nat → Nat) (loop : List Point2) (point : Point2) :
    contains (withCopies copies loop) point = contains loop point := by
  cases found : loop.getLast? with
  | none =>
      rw [List.getLast?_eq_none_iff.mp found]
      rfl
  | some last =>
      have same := round?_withCopies copies loop point
      rw [round?_eq, round?_eq, getLast?_withCopies, found] at same
      exact congrArg Round.inside (Option.some.inj same)

/-- A point is inside a loop exactly if an odd number of its edges, the closing one among
them, cross the ray from the point to the right. So the loop may start anywhere and have
copies of its vertices. One round along it, starting with the last vertex as the previous
one, gives the answer, and divides only for edges that pass the height of the point and
have two different heights. -/
theorem contains_iff_odd_crossings (loop : List Point2) (nonempty : loop ≠ [])
    (point : Point2) :
    (contains loop point = true ↔ Odd (crossings loop point)) ∧
      (∀ places, contains (loop.rotate places) point = contains loop point) ∧
      (∀ copies places,
        contains ((withCopies copies loop).rotate places) point = contains loop point) ∧
      ∃ round, round? loop point = some round ∧
        round.inside = contains loop point ∧
        round.divided = (predecessorPairs loop).filter
          (fun edge => straddles edge.1 edge.2 point) ∧
        ∀ edge ∈ round.divided, (edge.1.v == edge.2.v) = false := by
  refine ⟨?_, ?_, ?_, ?_⟩
  · rw [contains_eq, decide_eq_true_iff]
  · intro places
    exact contains_rotate loop places point
  · intro copies places
    rw [contains_rotate, contains_withCopies]
  · have goesRound := round?_eq loop point
    rw [List.getLast?_eq_some_getLast nonempty] at goesRound
    refine ⟨_, goesRound, rfl, rfl, ?_⟩
    intro edge member
    exact ne_of_straddles (List.mem_filter.mp member).2

def alcove : List Point2 :=
  [⟨0, 0⟩, ⟨2, 0⟩, ⟨2, 1⟩, ⟨1, 1⟩, ⟨1, 2⟩, ⟨0, 2⟩]

theorem contains_iff_odd_crossings_alcove :
    alcove ≠ [] ∧ Odd (crossings alcove ⟨0.5, 1⟩) ∧
      contains (alcove.rotate 4) ⟨0.5, 1⟩ = true ∧
      contains ((withCopies id alcove).rotate 1) ⟨0.5, 1⟩ = true ∧
      ∃ round, round? alcove ⟨0.5, 1⟩ = some round ∧ round.inside = true ∧
        round.divided.length = 2 ∧
        ∀ edge ∈ round.divided, (edge.1.v == edge.2.v) = false := by
  have nonempty : alcove ≠ [] := List.cons_ne_nil _ _
  have inside : contains alcove ⟨0.5, 1⟩ = true := by decide +kernel
  rcases contains_iff_odd_crossings alcove nonempty ⟨0.5, 1⟩ with
    ⟨parity, rotated, copied, round, goesRound, answer, divided, different⟩
  have divisions : round.divided.length = 2 := by
    rw [divided]
    decide +kernel
  exact ⟨nonempty, parity.mp inside, (rotated 4).trans inside, (copied id 1).trans inside,
    round, goesRound, answer.trans inside, divisions, different⟩

end Loop

end PlanarMesh
