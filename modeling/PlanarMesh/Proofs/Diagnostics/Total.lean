import Mathlib.Algebra.Order.BigOperators.Group.List
import Mathlib.Algebra.Order.Ring.Nat
import PlanarMesh.Diagnostics.Basic

/-! # Totals of diagnostics

Merging adds counts up, so that it does not matter how diagnostics are grouped before
they are merged into a total. The drift of a total is found from its sums. It hides
none as long as vertices can only be lost, and only by a tessellator.
-/

namespace PlanarMesh.Diagnostics

theorem isClean_iff {diagnostics : Diagnostics} :
    diagnostics.isClean = true ↔
      diagnostics.degenerate = false ∧ diagnostics.hasVertexCountDrift = false ∧
        diagnostics.warnings = [] := by
  simp [isClean, hasWarnings, and_assoc]

theorem hasVertexCountDrift_eq_false_iff {diagnostics : Diagnostics} :
    diagnostics.hasVertexCountDrift = false ↔
      (diagnostics.tessellated = true →
        diagnostics.inputVertexCount = diagnostics.vertexCount) := by
  cases equal : diagnostics.tessellated with
  | false => simp [hasVertexCountDrift, equal]
  | true => simp [hasVertexCountDrift, equal]

/-! ## Merging -/

theorem merge_assoc (first second third : Diagnostics) :
    (first.merge second).merge third = first.merge (second.merge third) := by
  simp only [merge, Nat.add_assoc, Bool.or_assoc, List.append_assoc]

@[simp] theorem merge_empty (diagnostics : Diagnostics) :
    diagnostics.merge empty = diagnostics := by
  simp [merge, empty]

def total (items : List Diagnostics) : Diagnostics :=
  items.foldl merge empty

theorem foldl_merge (start : Diagnostics) (items : List Diagnostics) :
    items.foldl merge start =
      { ringCount := start.ringCount + (items.map (·.ringCount)).sum
        removedDuplicateCount :=
          start.removedDuplicateCount + (items.map (·.removedDuplicateCount)).sum
        tessellated := start.tessellated || items.any (·.tessellated)
        inputVertexCount := start.inputVertexCount + (items.map (·.inputVertexCount)).sum
        vertexCount := start.vertexCount + (items.map (·.vertexCount)).sum
        triangleCount := start.triangleCount + (items.map (·.triangleCount)).sum
        degenerate := start.degenerate || items.any (·.degenerate)
        tessellation := start.tessellation
        warnings := start.warnings ++ items.flatMap (·.warnings) } := by
  induction items generalizing start with
  | nil => simp
  | cons item rest induction =>
      rw [List.foldl_cons, induction]
      simp only [merge, List.map_cons, List.sum_cons, List.any_cons, List.flatMap_cons,
        Nat.add_assoc, Bool.or_assoc, List.append_assoc]

theorem total_eq (items : List Diagnostics) :
    total items =
      { ringCount := (items.map (·.ringCount)).sum
        removedDuplicateCount := (items.map (·.removedDuplicateCount)).sum
        tessellated := items.any (·.tessellated)
        inputVertexCount := (items.map (·.inputVertexCount)).sum
        vertexCount := (items.map (·.vertexCount)).sum
        triangleCount := (items.map (·.triangleCount)).sum
        degenerate := items.any (·.degenerate)
        tessellation := none
        warnings := items.flatMap (·.warnings) } := by
  rw [total, foldl_merge]
  simp [empty]

/-! ## Grouping -/

/-- A way to merge diagnostics: in groups, which may themselves be grouped. -/
inductive Grouping where
  | nothing
  | single (item : Diagnostics)
  | join (left right : Grouping)

namespace Grouping

def members : Grouping → List Diagnostics
  | nothing => []
  | single item => [item]
  | join left right => left.members ++ right.members

def merged : Grouping → Diagnostics
  | nothing => empty
  | single item => item
  | join left right => left.merged.merge right.merged

theorem merge_merged (start : Diagnostics) (grouping : Grouping) :
    start.merge grouping.merged = grouping.members.foldl merge start := by
  induction grouping generalizing start with
  | nothing => exact merge_empty start
  | single item => rfl
  | join left right leftInduction rightInduction =>
      rw [merged, members, List.foldl_append, ← leftInduction, ← rightInduction,
        merge_assoc]

end Grouping

/-! ## Cleanness -/

/-- No vertex was added, and a difference is put down to a tessellator. -/
structure Accounted (diagnostics : Diagnostics) : Prop where
  le : diagnostics.vertexCount ≤ diagnostics.inputVertexCount
  blamed : diagnostics.tessellated = false →
    diagnostics.vertexCount = diagnostics.inputVertexCount

theorem Accounted.hasVertexCountDrift_eq_false_iff {diagnostics : Diagnostics}
    (accounted : diagnostics.Accounted) :
    diagnostics.hasVertexCountDrift = false ↔
      diagnostics.vertexCount = diagnostics.inputVertexCount := by
  rw [Diagnostics.hasVertexCountDrift_eq_false_iff]
  cases equal : diagnostics.tessellated with
  | false => simp [accounted.blamed equal]
  | true => simp [eq_comm]

section Total

variable {items : List Diagnostics}

/-- Losses add up, since there is no gain that could make up for them. -/
theorem sum_vertexCount_eq_iff (accounted : ∀ item ∈ items, item.Accounted) :
    (items.map (·.vertexCount)).sum = (items.map (·.inputVertexCount)).sum ↔
      ∀ item ∈ items, item.vertexCount = item.inputVertexCount := by
  constructor
  · intro equal item member
    by_contra different
    have less : item.vertexCount < item.inputVertexCount :=
      Nat.lt_of_le_of_ne (accounted item member).le different
    have sumLess := List.sum_lt_sum (·.vertexCount) (·.inputVertexCount)
      (fun other otherMember => (accounted other otherMember).le) ⟨item, member, less⟩
    exact Nat.ne_of_lt sumLess equal
  · intro equal
    rw [List.map_congr_left equal]

theorem accounted_total (accounted : ∀ item ∈ items, item.Accounted) :
    (total items).Accounted where
  le := by
    rw [total_eq]
    exact List.sum_le_sum fun item member => (accounted item member).le
  blamed := by
    intro noTessellator
    rw [total_eq] at noTessellator ⊢
    apply (sum_vertexCount_eq_iff accounted).mpr
    intro item member
    apply (accounted item member).blamed
    simpa using List.any_eq_false.mp noTessellator item member

/-- A total is clean exactly when everything that went into it is. -/
theorem isClean_total_iff (accounted : ∀ item ∈ items, item.Accounted) :
    (total items).isClean = true ↔ ∀ item ∈ items, item.isClean = true := by
  have noDrift : (total items).hasVertexCountDrift = false ↔
      ∀ item ∈ items, item.hasVertexCountDrift = false := by
    rw [(accounted_total accounted).hasVertexCountDrift_eq_false_iff, total_eq,
      sum_vertexCount_eq_iff accounted]
    apply forall₂_congr
    intro item member
    exact (accounted item member).hasVertexCountDrift_eq_false_iff.symm
  have noneDegenerate : (total items).degenerate = false ↔
      ∀ item ∈ items, item.degenerate = false := by
    rw [total_eq]
    simp
  have noWarnings : (total items).warnings = [] ↔
      ∀ item ∈ items, item.warnings = [] := by
    rw [total_eq]
    exact List.flatMap_eq_nil_iff
  rw [isClean_iff, noDrift, noneDegenerate, noWarnings]
  constructor
  · rintro ⟨degenerate, drift, warnings⟩ item member
    exact isClean_iff.mpr ⟨degenerate item member, drift item member, warnings item member⟩
  · intro clean
    exact ⟨fun item member => (isClean_iff.mp (clean item member)).1,
      fun item member => (isClean_iff.mp (clean item member)).2.1,
      fun item member => (isClean_iff.mp (clean item member)).2.2⟩

end Total

end PlanarMesh.Diagnostics
