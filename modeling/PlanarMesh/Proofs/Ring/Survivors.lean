import PlanarMesh.Proofs.Ring.Sweep

/-! # Survivors of duplicate removal

Which vertices go can be told from the whole loop, place by place: a vertex goes if it
coincides with the one behind it, as long as enough others are left. One set of places
says what is missing from the ring and from every coordinate list for it.
-/

namespace PlanarMesh

/-! ## When a vertex goes -/

/-- What a vertex is compared with: the vertex at the next place, and at the last place
the first one that stays. -/
def behind? (loop : List Point3) (places : List Nat) (place : Nat) : Option Point3 :=
  loop[place + 1]?.or (outside places loop).head?

/-- A vertex goes, given the places of those that go: before it fewer go than would leave
two, and it coincides with the one behind it. -/
structure GoesAt (loop : List Point3) (places : List Nat) (place : Nat) : Prop where
  spare : places.countP (· < place) + 2 < loop.length
  duplicate : ∃ vertex next, loop[place]? = some vertex ∧
    behind? loop places place = some next ∧ coincide vertex next = true

theorem countP_lt_eq_zero {places : List Nat} {place : Nat}
    (later : ∀ goes ∈ places, place ≤ goes) : places.countP (· < place) = 0 := by
  rw [List.countP_eq_zero]
  intro goes member
  have notBefore := later goes member
  simp only [decide_eq_true_eq]
  omega

/-! ## A pass under way -/

abbrev TakesOut (size removed : Nat) (first : Option Point3) (vertex : Point3)
    (ahead : List Point3) : Prop :=
  removed + 2 < size ∧ coincide vertex (ahead.head?.getD (first.getD vertex)) = true

def survivorsFrom (size place removed : Nat) (first : Option Point3)
    (vertices : List Point3) : List Point3 :=
  outsideFrom (duplicatePlacesFrom size place removed first vertices) place vertices

theorem survivorsFrom_nil (size place removed : Nat) (first : Option Point3) :
    survivorsFrom size place removed first [] = [] :=
  rfl

section Vertex

variable {size place removed : Nat} {first : Option Point3} {vertex : Point3}
  {ahead : List Point3}

theorem survivorsFrom_of_goes (goes : TakesOut size removed first vertex ahead) :
    survivorsFrom size place removed first (vertex :: ahead) =
      survivorsFrom size (place + 1) (removed + 1) first ahead := by
  rw [survivorsFrom, duplicatePlacesFrom, if_pos goes,
    outsideFrom_cons_of_mem List.mem_cons_self, outsideFrom_cons_of_lt (Nat.lt_add_one place)]
  rfl

theorem survivorsFrom_of_stays (stays : ¬TakesOut size removed first vertex ahead) :
    survivorsFrom size place removed first (vertex :: ahead) =
      vertex :: survivorsFrom size (place + 1) removed (first.or (some vertex)) ahead := by
  rw [survivorsFrom, duplicatePlacesFrom, if_neg stays,
    outsideFrom_cons_of_not_mem (not_mem_duplicatePlacesFrom _ _ _ _ _)]
  rfl

theorem mem_duplicatePlacesFrom_here :
    place ∈ duplicatePlacesFrom size place removed first (vertex :: ahead) ↔
      TakesOut size removed first vertex ahead := by
  rw [duplicatePlacesFrom]
  split
  next goes => exact iff_of_true List.mem_cons_self goes
  next stays => exact iff_of_false (not_mem_duplicatePlacesFrom _ _ _ _ _) stays

/-- What that vertex is compared with can be told afterwards. `first` is the first one
kept so far, if there is any. -/
theorem behind_here (sizeEqual : size = place + (ahead.length + 1))
    (noneKept : first = none → place = removed) (spare : removed + 2 < size) :
    ahead.head?.or
        (first.or (survivorsFrom size place removed first (vertex :: ahead)).head?) =
      some (ahead.head?.getD (first.getD vertex)) := by
  cases ahead with
  | cons next others => rfl
  | nil =>
      cases first with
      | some kept => rfl
      | none =>
          -- All vertices but this one would have gone, which are too many.
          have allGone := noneKept rfl
          rw [List.length_nil] at sizeEqual
          omega

end Vertex

theorem mem_duplicatePlacesFrom (size place removed : Nat) (first : Option Point3)
    (vertices : List Point3) (sizeEqual : size = place + vertices.length)
    (noneKept : first = none → place = removed) (offset : Nat) :
    let places := duplicatePlacesFrom size place removed first vertices
    place + offset ∈ places ↔
      removed + places.countP (· < place + offset) + 2 < size ∧
        ∃ vertex next, vertices[offset]? = some vertex ∧
          vertices[offset + 1]?.or
            (first.or (survivorsFrom size place removed first vertices).head?) =
              some next ∧
          coincide vertex next = true := by
  dsimp only
  induction vertices generalizing place removed first offset with
  | nil => simp [duplicatePlacesFrom]
  | cons head ahead induction =>
      rw [List.length_cons] at sizeEqual
      cases offset with
      | zero =>
          have noneBefore := countP_lt_eq_zero fun goes
            (member : goes ∈ duplicatePlacesFrom size place removed first (head :: ahead)) =>
              le_of_mem_duplicatePlacesFrom member
          rw [Nat.add_zero, mem_duplicatePlacesFrom_here, noneBefore]
          refine and_congr_right fun spare => ?_
          simp only [List.getElem?_cons_succ, ← List.head?_eq_getElem?, List.head?_cons,
            behind_here sizeEqual noneKept spare, Option.some.injEq]
          constructor
          · intro same
            exact ⟨head, _, rfl, rfl, same⟩
          · rintro ⟨_, _, rfl, rfl, same⟩
            exact same
      | succ offset =>
          have shift : place + (offset + 1) = place + 1 + offset := by omega
          simp only [shift, List.getElem?_cons_succ]
          rw [duplicatePlacesFrom]
          split
          next goes =>
            have tail := induction (place + 1) (removed + 1) first (by omega)
              (fun none => by rw [noneKept none]) offset
            have different : place + 1 + offset ≠ place := by omega
            have counted : ∀ places : List Nat,
                (place :: places).countP (· < place + 1 + offset) =
                  places.countP (· < place + 1 + offset) + 1 := fun places =>
              List.countP_cons_of_pos (decide_eq_true (by omega))
            rw [List.mem_cons, or_iff_right different, counted, tail,
              survivorsFrom_of_goes goes, ← Nat.add_assoc, Nat.add_right_comm removed 1]
          next stays =>
            have tail := induction (place + 1) removed (first.or (some head)) (by omega)
              (fun none => by cases first <;> cases none) offset
            rw [survivorsFrom_of_stays stays, tail]
            simp only [List.head?_cons, Option.or_assoc, Option.some_or]

theorem mem_duplicatePlaces_iff (loop : List Point3) (place : Nat) :
    place ∈ duplicatePlaces loop ↔ GoesAt loop (duplicatePlaces loop) place := by
  have whole := mem_duplicatePlacesFrom loop.length 0 0 none loop
    (Nat.zero_add loop.length).symm (fun _ => rfl) place
  simp only [Nat.zero_add, Option.none_or] at whole
  exact whole.trans ⟨fun goes => ⟨goes.1, goes.2⟩, fun goes => ⟨goes.1, goes.2⟩⟩

/-! ## The set of places -/

theorem duplicatePlacesFrom_pairwise (size place removed : Nat) (first : Option Point3)
    (vertices : List Point3) :
    (duplicatePlacesFrom size place removed first vertices).Pairwise (· < ·) := by
  induction vertices generalizing place removed first with
  | nil => exact List.Pairwise.nil
  | cons vertex ahead induction =>
      rw [duplicatePlacesFrom]
      split
      · refine List.Pairwise.cons ?_ (induction (place + 1) (removed + 1) first)
        intro later member
        exact le_of_mem_duplicatePlacesFrom member
      · exact induction (place + 1) removed (first.or (some vertex))

theorem duplicatePlaces_pairwise (loop : List Point3) :
    (duplicatePlaces loop).Pairwise (· < ·) :=
  duplicatePlacesFrom_pairwise loop.length 0 0 none loop

theorem lt_of_mem_duplicatePlaces {loop : List Point3} {place : Nat}
    (member : place ∈ duplicatePlaces loop) : place < loop.length := by
  rcases ((mem_duplicatePlaces_iff loop place).mp member).duplicate with
    ⟨vertex, _, found, _⟩
  exact (List.getElem?_eq_some_iff.mp found).1

theorem length_duplicatePlacesFrom_le {size removed : Nat} (enough : removed + 2 ≤ size)
    (place : Nat) (first : Option Point3) (vertices : List Point3) :
    removed + (duplicatePlacesFrom size place removed first vertices).length + 2 ≤ size := by
  induction vertices generalizing place removed first with
  | nil => exact enough
  | cons vertex ahead induction =>
      rw [duplicatePlacesFrom]
      split
      next goes =>
        have tail := induction (by omega : removed + 1 + 2 ≤ size) (place + 1) first
        rw [List.length_cons]
        omega
      next stays => exact induction enough (place + 1) (first.or (some vertex))

/-! ## Lockstep -/

namespace Ring

theorem removeDuplicates_vertices (ring : Ring) (targets : List TextureTarget)
    (logger : Option Listener) :
    (ring.removeDuplicates targets logger).value.ring.vertices =
      outside (duplicatePlaces ring.vertices) ring.vertices := by
  rw [removeDuplicates_ring, cleaned_vertices, removedPlaces_true]

/-- One set of places is missing afterwards: from the ring, and from each coordinate list
for it as far as the list reaches. Nothing else has changed. -/
theorem removeDuplicates_lockstep (ring : Ring) (targets : List TextureTarget)
    (logger : Option Listener) :
    let cleaned := (ring.removeDuplicates targets logger).value
    ∃ places : List Nat,
      places.Pairwise (· < ·) ∧ (∀ place ∈ places, place < ring.size) ∧
      cleaned.removed = places.length ∧
      cleaned.ring = { ring with vertices := outside places ring.vertices } ∧
      cleaned.targets = targets.map fun target =>
        { target with
          coordinates := target.coordinates.map fun coordinates =>
            if coordinates.targetRingId = ring.id then
              { coordinates with coords := outside places coordinates.coords }
            else
              coordinates } := by
  refine ⟨duplicatePlaces ring.vertices, duplicatePlaces_pairwise _,
    fun place member => lt_of_mem_duplicatePlaces member,
    ring.removeDuplicates_removed targets logger, ?_, ?_⟩
  · rw [removeDuplicates_value]
    simp only [eraseAll_duplicatePositions]
  · rw [removeDuplicates_value]
    apply List.map_congr_left
    intro target _
    rw [← TextureTarget.follow_true]
    simp only [TextureTarget.follow, TextureCoordinates.targets, beq_iff_eq,
      removedPlaces_true]

/-! ## Exact survivors -/

def stuttering : Ring :=
  ⟨"outline", true,
    [⟨0, 0, 0⟩, ⟨1, 0, 0⟩, ⟨1, 0, 0⟩, ⟨1, 1, 0⟩, ⟨0, 1, 0⟩, ⟨0, 0, 0⟩]⟩

/-- A sweep with a moving index ends, within as many steps as the ring has vertices, with
the same result as the removal. What it takes out is what goes when each vertex is
compared with the one behind it in the whole loop. -/
theorem removeDuplicates_survivors (ring : Ring) (targets : List TextureTarget)
    (logger : Option Listener) :
    let cleaned := (ring.removeDuplicates targets logger).value
    let places := duplicatePlaces ring.vertices
    (∃ steps final, Sweep.Ends ring.id steps (Sweep.start ring targets) final) ∧
    (∀ steps final, Sweep.Ends ring.id steps (Sweep.start ring targets) final →
      steps ≤ ring.size ∧ final.removed = cleaned.removed ∧
        final.vertices = cleaned.ring.vertices ∧ final.targets = cleaned.targets) ∧
    places.Pairwise (· < ·) ∧
    (∀ place, place ∈ places ↔ GoesAt ring.vertices places place) ∧
    cleaned.removed = places.length ∧
    cleaned.ring.vertices = outside places ring.vertices ∧
    cleaned.ring.vertices.Sublist ring.vertices ∧
    (2 ≤ ring.size → 2 ≤ cleaned.ring.size) ∧
    (ring.size ≤ 2 → cleaned.ring.vertices = ring.vertices) := by
  have count := ring.removeDuplicates_removed targets logger
  have survivors := ring.removeDuplicates_vertices targets logger
  rcases Sweep.exists_ends_start ring targets logger with ⟨steps, index, bound, ends⟩
  dsimp only
  refine ⟨⟨steps, _, ends⟩, ?_, duplicatePlaces_pairwise _, mem_duplicatePlaces_iff _,
    count, survivors, ?_, ?_, ?_⟩
  · intro others final again
    rcases ends.unique again with ⟨rfl, rfl⟩
    exact ⟨bound, rfl, rfl, rfl⟩
  · rw [survivors]
    exact outside_sublist _ _
  · intro enough
    have total : (ring.cleaned true).size + (duplicatePlaces ring.vertices).length =
        ring.size := ring.size_cleaned true
    have spared : 0 + (duplicatePlaces ring.vertices).length + 2 ≤ ring.size :=
      length_duplicatePlacesFrom_le enough 0 none ring.vertices
    rw [removeDuplicates_ring]
    omega
  · intro few
    have nothing : duplicatePlaces ring.vertices = [] :=
      duplicatePlacesFrom_eq_nil (Nat.zero_add 2 ▸ few) 0 none ring.vertices
    rw [survivors, nothing, outside_no_places]

theorem removeDuplicates_survivors_stuttering :
    let cleaned := (stuttering.removeDuplicates [] none).value
    2 ≤ stuttering.size ∧ 2 ≤ cleaned.ring.size ∧
      cleaned.removed = 2 ∧ cleaned.ring.vertices = outside [1, 5] stuttering.vertices ∧
      ∃ steps final, steps ≤ 6 ∧
        Sweep.Ends "outline" steps (Sweep.start stuttering []) final ∧
        final.vertices = outside [1, 5] stuttering.vertices := by
  have places : duplicatePlaces stuttering.vertices = [1, 5] := by decide +kernel
  have enough : 2 ≤ stuttering.size := by decide
  rcases removeDuplicates_survivors stuttering [] none with
    ⟨⟨steps, final, ends⟩, sweeps, _, _, count, survivors, _, keepsTwo, _⟩
  rcases sweeps steps final ends with ⟨bound, _, vertices, _⟩
  rw [places] at count survivors
  exact ⟨enough, keepsTwo enough, count, survivors, steps, final, bound, ends,
    vertices.trans survivors⟩

end Ring

end PlanarMesh
