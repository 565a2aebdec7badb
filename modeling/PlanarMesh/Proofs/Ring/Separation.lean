import PlanarMesh.Proofs.Number.Laws
import PlanarMesh.Proofs.Ring.Survivors

/-! # Duplicates that stay

A pass compares each vertex with the one behind it in the whole loop. If that one goes,
the vertex gets another neighbour, with which it is not compared. Points coincide up to
a threshold, so it may coincide with the new neighbour although it did not with the old
one. Where coincidence carries over from point to point this cannot happen, and no
vertex of the cleaned ring coincides with its successor.
-/

namespace PlanarMesh

def Apart (left right : Point3) : Prop :=
  coincide left right = false

instance (left right : Point3) : Decidable (Apart left right) :=
  inferInstanceAs (Decidable (coincide left right = false))

theorem apart_iff {left right : Point3} :
    Apart left right ↔ ¬coincide left right = true := by
  rw [Apart, Bool.not_eq_true]

/-- No vertex of the loop coincides with its successor. -/
def Separated (loop : List Point3) : Prop :=
  ∀ edge ∈ successorPairs loop, Apart edge.1 edge.2

instance (loop : List Point3) : Decidable (Separated loop) :=
  inferInstanceAs (Decidable (∀ edge ∈ successorPairs loop, Apart edge.1 edge.2))

/-- Coincidence carries over from vertex to vertex. -/
def Clustered (loop : List Point3) : Prop :=
  ∀ first ∈ loop, ∀ second ∈ loop, ∀ third ∈ loop,
    coincide first second = true → coincide second third = true →
      coincide first third = true

instance (loop : List Point3) : Decidable (Clustered loop) :=
  inferInstanceAs (Decidable (∀ first ∈ loop, ∀ second ∈ loop, ∀ third ∈ loop,
    coincide first second = true → coincide second third = true →
      coincide first third = true))

/-! ## Coincidence -/

theorem Point3.distanceSquared_comm (left right : Point3) :
    left.distanceSquared right = right.distanceSquared left := by
  change (left.x - right.x) * (left.x - right.x) + (left.y - right.y) * (left.y - right.y) +
      (left.z - right.z) * (left.z - right.z) = _
  rw [Number.mul_self_sub_comm left.x, Number.mul_self_sub_comm left.y,
    Number.mul_self_sub_comm left.z]
  rfl

theorem coincide_comm (left right : Point3) : coincide left right = coincide right left := by
  rw [coincide, coincide, Point3.distanceSquared_comm]

/-! ## Separated loops -/

/-- A loop is separated if its vertices, run through up to the first one again, keep
apart one after the other. -/
theorem separated_iff_isChain (first : Point3) (rest : List Point3) :
    Separated (first :: rest) ↔ (first :: rest ++ [first]).IsChain Apart := by
  rw [List.isChain_cons_append_singleton_iff_forall₂, List.forall₂_iff_zip]
  constructor
  · intro separated
    refine ⟨by simp, ?_⟩
    intro vertex next member
    exact separated (vertex, next) member
  · rintro ⟨_, apart⟩ ⟨vertex, next⟩ member
    exact apart member

theorem head?_closed {first : Option Point3} {vertex closing : Point3}
    {ahead : List Point3} (closes : ahead = [] → first.getD vertex = closing) :
    (ahead ++ [closing]).head? = some (ahead.head?.getD (first.getD vertex)) := by
  cases ahead with
  | cons next others => rfl
  | nil => rw [← closes rfl]; rfl

theorem duplicatePlacesFrom_eq_nil_iff {size removed : Nat} (spare : removed + 2 < size)
    (place : Nat) (first : Option Point3) (vertices : List Point3) (closing : Point3)
    (closes : first.or vertices.head? = some closing) :
    duplicatePlacesFrom size place removed first vertices = [] ↔
      (vertices ++ [closing]).IsChain Apart := by
  induction vertices generalizing place first with
  | nil => exact iff_of_true rfl (List.isChain_singleton closing)
  | cons vertex ahead induction =>
      have closing_eq : first.getD vertex = closing :=
        Option.some.inj (Option.or_some.symm.trans closes)
      rw [duplicatePlacesFrom, List.cons_append, List.isChain_cons,
        head?_closed fun _ => closing_eq]
      split
      next goes =>
        refine iff_of_false (List.cons_ne_nil _ _) ?_
        intro chain
        exact apart_iff.mp (chain.1 _ rfl) goes.2
      next stays =>
        have kept : (first.or (some vertex)).or ahead.head? = some closing := by
          rw [Option.or_assoc, Option.some_or]
          exact closes
        rw [induction (place + 1) (first.or (some vertex)) kept]
        refine (and_iff_right ?_).symm
        rintro next found
        cases found
        exact apart_iff.mpr fun same => stays ⟨spare, same⟩

theorem duplicatePlaces_eq_nil_iff (loop : List Point3) :
    duplicatePlaces loop = [] ↔ loop.length ≤ 2 ∨ Separated loop := by
  by_cases few : loop.length ≤ 2
  · exact iff_of_true (duplicatePlacesFrom_eq_nil (Nat.zero_add 2 ▸ few) 0 none loop)
      (.inl few)
  · rw [or_iff_right few]
    cases loop with
    | nil => exact absurd (Nat.zero_le 2) few
    | cons first rest =>
        rw [separated_iff_isChain]
        exact duplicatePlacesFrom_eq_nil_iff (by omega) 0 none (first :: rest) first rfl

/-! ## A pass that can spare vertices -/

/-- A pass on its way through a loop, which will leave more than two vertices. The first
of those that stay closes the loop. -/
structure Underway (loop : List Point3) (closing : Point3) (size place removed : Nat)
    (first : Option Point3) (vertices : List Point3) : Prop where
  inLoop : ∀ vertex ∈ vertices, vertex ∈ loop
  closingInLoop : closing ∈ loop
  spare :
    removed + (duplicatePlacesFrom size place removed first vertices).length + 2 < size
  closes : first.or (survivorsFrom size place removed first vertices).head? = some closing

namespace Underway

variable {loop : List Point3} {closing : Point3} {size place removed : Nat}
  {first : Option Point3}

theorem inLoop_of_head? {vertices part : List Point3}
    (underway : Underway loop closing size place removed first vertices)
    (within : part.Sublist vertices) {next : Point3}
    (found : next ∈ (part ++ [closing]).head?) : next ∈ loop := by
  rcases List.mem_append.mp (List.mem_of_mem_head? found) with member | member
  · exact underway.inLoop next (within.subset member)
  · exact List.mem_singleton.mp member ▸ underway.closingInLoop

variable {vertex : Point3} {ahead : List Point3}

theorem takeOut
    (underway : Underway loop closing size place removed first (vertex :: ahead))
    (goes : TakesOut size removed first vertex ahead) :
    Underway loop closing size (place + 1) (removed + 1) first ahead where
  inLoop := fun next member => underway.inLoop next (List.mem_cons_of_mem vertex member)
  closingInLoop := underway.closingInLoop
  spare := by
    have spare := underway.spare
    rw [duplicatePlacesFrom, if_pos goes, List.length_cons] at spare
    omega
  closes := survivorsFrom_of_goes goes ▸ underway.closes

theorem keep (underway : Underway loop closing size place removed first (vertex :: ahead))
    (stays : ¬TakesOut size removed first vertex ahead) :
    Underway loop closing size (place + 1) removed (first.or (some vertex)) ahead where
  inLoop := fun next member => underway.inLoop next (List.mem_cons_of_mem vertex member)
  closingInLoop := underway.closingInLoop
  spare := by
    have spare := underway.spare
    rwa [duplicatePlacesFrom, if_neg stays] at spare
  closes := by
    have closes := underway.closes
    rw [survivorsFrom_of_stays stays] at closes
    rw [Option.or_assoc, Option.some_or]
    exact closes

theorem head?_ahead
    (underway : Underway loop closing size place removed first (vertex :: ahead)) :
    (ahead ++ [closing]).head? = some (ahead.head?.getD (first.getD vertex)) := by
  apply head?_closed
  rintro rfl
  have closes := underway.closes
  by_cases last : TakesOut size removed first vertex []
  · rw [survivorsFrom_of_goes last, survivorsFrom_nil, List.head?_nil, Option.or_none]
      at closes
    rw [closes, Option.getD_some]
  · rw [survivorsFrom_of_stays last, List.head?_cons, Option.or_some] at closes
    exact Option.some.inj closes

/-- The vertex that the pass has come to is the first one ahead that stays, or coincides
with it. -/
theorem eq_or_coincide (clustered : Clustered loop) {vertices : List Point3}
    (underway : Underway loop closing size place removed first vertices)
    {here next : Point3} (found : here ∈ (vertices ++ [closing]).head?)
    (behind : next ∈
      (survivorsFrom size place removed first vertices ++ [closing]).head?) :
    here = next ∨ coincide here next = true := by
  induction vertices generalizing place removed first here with
  | nil =>
      cases found
      cases behind
      exact .inl rfl
  | cons vertex ahead induction =>
      cases found
      by_cases same : TakesOut size removed first vertex ahead
      · rw [survivorsFrom_of_goes same] at behind
        have later := underway.takeOut same
        right
        rcases induction later underway.head?_ahead behind with equal | close
        · exact equal ▸ same.2
        · exact clustered vertex (underway.inLoop vertex List.mem_cons_self) _
            (later.inLoop_of_head? (List.Sublist.refl ahead) underway.head?_ahead) next
            (later.inLoop_of_head? (outsideFrom_sublist _ _ ahead) behind) same.2 close
      · rw [survivorsFrom_of_stays same] at behind
        cases behind
        exact .inl rfl

theorem isChain (clustered : Clustered loop) {vertices : List Point3}
    (underway : Underway loop closing size place removed first vertices) :
    (survivorsFrom size place removed first vertices ++ [closing]).IsChain Apart := by
  induction vertices generalizing place removed first with
  | nil => exact List.isChain_singleton closing
  | cons vertex ahead induction =>
      by_cases same : TakesOut size removed first vertex ahead
      · rw [survivorsFrom_of_goes same]
        exact induction (underway.takeOut same)
      · have later := underway.keep same
        have spare := underway.spare
        have apart : Apart vertex (ahead.head?.getD (first.getD vertex)) :=
          apart_iff.mpr fun close => same ⟨by omega, close⟩
        rw [survivorsFrom_of_stays same, List.cons_append, List.isChain_cons]
        refine ⟨?_, induction later⟩
        intro next behind
        rcases later.eq_or_coincide clustered underway.head?_ahead behind with equal | linked
        · exact equal ▸ apart
        · -- Were it close to the new neighbour, it would be close to the old one.
          refine apart_iff.mpr fun close => apart_iff.mp apart ?_
          rw [coincide_comm] at linked
          exact clustered vertex (underway.inLoop vertex List.mem_cons_self) next
            (later.inLoop_of_head? (outsideFrom_sublist _ _ ahead) behind) _
            (later.inLoop_of_head? (List.Sublist.refl ahead) underway.head?_ahead) close
            linked

end Underway

theorem separated_survivors {loop : List Point3} (clustered : Clustered loop)
    (many : 2 < (outside (duplicatePlaces loop) loop).length) :
    Separated (outside (duplicatePlaces loop) loop) := by
  have total := length_outsideFrom_duplicatePlacesFrom loop.length 0 0 none loop loop rfl
  rcases survivors : outside (duplicatePlaces loop) loop with _ | ⟨first, rest⟩
  · rw [survivors] at many
    cases many
  · have inLoop : first ∈ loop := by
      apply (outside_sublist (duplicatePlaces loop) loop).subset
      rw [survivors]
      exact List.mem_cons_self
    have underway : Underway loop first loop.length 0 0 none loop :=
      { inLoop := fun _ member => member
        closingInLoop := inLoop
        spare := by
          change 2 < (outsideFrom _ 0 loop).length at many
          rw [← duplicatePlaces] at total ⊢
          omega
        closes := by
          change (outside (duplicatePlaces loop) loop).head? = some first
          rw [survivors]
          rfl }
    rw [separated_iff_isChain, ← survivors]
    exact underway.isChain clustered

/-- After a pass with vertices to spare, each vertex left is apart from the one that was
behind it in the whole loop. -/
theorem apart_behind {loop : List Point3}
    (spare : (duplicatePlaces loop).length + 2 < loop.length) {place : Nat}
    (stays : place ∉ duplicatePlaces loop) {vertex next : Point3}
    (found : loop[place]? = some vertex)
    (behind : behind? loop (duplicatePlaces loop) place = some next) :
    Apart vertex next := by
  refine apart_iff.mpr fun close => stays ?_
  have before : (duplicatePlaces loop).countP (· < place) ≤ (duplicatePlaces loop).length :=
    List.countP_le_length
  exact (mem_duplicatePlaces_iff loop place).mpr
    ⟨by omega, vertex, next, found, behind, close⟩

/-! ## A pass over a ring -/

namespace Ring

/-- A pass takes out nothing exactly when there is nothing to spare or no two neighbours
coincide. -/
theorem removed_eq_zero_iff (ring : Ring) (targets : List TextureTarget)
    (logger : Option Listener) :
    (ring.removeDuplicates targets logger).value.removed = 0 ↔
      ring.size ≤ 2 ∨ Separated ring.vertices := by
  rw [removeDuplicates_removed, removedPlaces_true, List.length_eq_zero_iff]
  exact duplicatePlaces_eq_nil_iff ring.vertices

/-- After a pass each vertex left is apart from the one that was behind it in the whole
loop. Where coincidence carries over it is apart from its successor as well, and this
alone decides whether a second pass finds something to take out. -/
theorem removeDuplicates_separated (ring : Ring) (targets : List TextureTarget)
    (logger : Option Listener) :
    let cleaned := (ring.removeDuplicates targets logger).value.ring
    let places := duplicatePlaces ring.vertices
    (cleaned.size ≤ 2 ∨ ∀ place vertex next, place ∉ places →
      ring.vertices[place]? = some vertex →
        behind? ring.vertices places place = some next → Apart vertex next) ∧
    (Clustered ring.vertices → cleaned.size ≤ 2 ∨ Separated cleaned.vertices) ∧
    ∀ others listener, (cleaned.removeDuplicates others listener).value.removed = 0 ↔
      cleaned.size ≤ 2 ∨ Separated cleaned.vertices := by
  have vertices := ring.removeDuplicates_vertices targets logger
  have total : (ring.cleaned true).size + (duplicatePlaces ring.vertices).length =
      ring.vertices.length := ring.size_cleaned true
  rw [← removeDuplicates_ring ring targets logger] at total
  dsimp only
  refine ⟨?_, ?_, fun others listener => removed_eq_zero_iff _ others listener⟩
  · refine or_iff_not_imp_left.mpr fun many => ?_
    intro place vertex next stays found behind
    exact apart_behind (by omega) stays found behind
  · intro clustered
    refine or_iff_not_imp_left.mpr fun many => ?_
    rw [size, vertices] at many
    rw [vertices]
    exact separated_survivors clustered (Nat.lt_of_not_le many)

theorem removeDuplicates_separated_stuttering :
    let cleaned := (stuttering.removeDuplicates [] none).value.ring
    Clustered stuttering.vertices ∧ 2 < cleaned.size ∧
      Separated cleaned.vertices ∧ (cleaned.removeDuplicates [] none).value.removed = 0 := by
  have clustered : Clustered stuttering.vertices := by decide +kernel
  have many : 2 < (stuttering.removeDuplicates [] none).value.ring.size := by
    decide +kernel
  rcases removeDuplicates_separated stuttering [] none with ⟨_, separates, again⟩
  have separated := (separates clustered).resolve_left (Nat.not_le_of_lt many)
  exact ⟨clustered, many, separated, (again [] none).mpr (.inr separated)⟩

/-- Of the first three vertices the second is too far from the first, and the third,
half way back, is close to both. -/
def doublingBack : Ring :=
  ⟨"outline", true,
    [⟨0, 0, 0⟩, ⟨2e-8, 0, 0⟩, ⟨1e-8, 0, 0⟩, ⟨4, 0, 0⟩, ⟨0, 3, 0⟩]⟩

/-- A pass can leave two neighbours that coincide, and a second one then takes out more. -/
theorem removeDuplicates_doublingBack_not_separated :
    let cleaned := (doublingBack.removeDuplicates [] none).value
    (∀ vertex ∈ doublingBack.vertices, vertex.isFinite) ∧
      cleaned.removed = 1 ∧ 2 < cleaned.ring.size ∧
      ¬Separated cleaned.ring.vertices ∧
      (cleaned.ring.removeDuplicates [] none).value.removed = 1 := by
  decide +kernel

end Ring

end PlanarMesh
