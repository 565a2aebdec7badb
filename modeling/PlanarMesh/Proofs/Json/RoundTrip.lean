import Mathlib.Data.List.Nodup
import PlanarMesh.Json.Records
import PlanarMesh.Proofs.Json.Arrays
import PlanarMesh.Proofs.Json.Progress

/-! # Records written and read

With a lawful codec what is written for a record is read as the record again, if its
numbers are read back, and so is every other object or array that gives the same fields.
An object that does not give just one value to each field is refused.
-/

namespace PlanarMesh.Json

/-! ## Fields -/

namespace FieldType

variable {α : Type} (library : Library)

/-- The texts of values that mean a field. -/
def Means : FieldType α → List Char → α → Prop
  | .number => library.IsNumber
  | .flag => IsFlag

def isWritable : FieldType α → α → Bool
  | .number => Float.isFinite
  | .flag => fun _ => true

def ReadsBack : FieldType α → α → Prop
  | .number => library.ReadsBack
  | .flag => fun _ => True

def write (fieldType : FieldType α) (field : α) : List Char :=
  library.write (fieldType.document field)

variable {library} (lawful : library.Lawful) (fieldType : FieldType α)
include lawful

theorem readsField : ReadsField (fieldType.read library) (fieldType.Means library) := by
  cases fieldType with
  | number => exact lawful.readsField_number
  | flag => exact lawful.readsField_flag

theorem isValue_write (field : α) : IsValue (fieldType.write library field) := by
  cases fieldType with
  | flag =>
      rw [write, document, lawful.write_flag]
      exact .flag field
  | number =>
      cases finite : Float.isFinite field with
      | true =>
          rcases lawful.write_finite finite with ⟨number, written⟩
          rw [write, document, written]
          exact .number number
      | false =>
          rw [write, document, lawful.write_infinite finite]
          exact .null

theorem means_write {field : α} (writable : fieldType.isWritable field = true)
    (readsBack : fieldType.ReadsBack library field) :
    fieldType.Means library (fieldType.write library field) field := by
  cases fieldType with
  | flag => exact lawful.write_flag field
  | number =>
      rcases lawful.write_finite writable with ⟨number, written⟩
      exact ⟨number, written, readsBack⟩

theorem not_means_write {field : α} (unwritable : fieldType.isWritable field = false)
    (other : α) :
    ¬ fieldType.Means library (fieldType.write library field) other := by
  cases fieldType with
  | flag => cases unwritable
  | number =>
      rintro ⟨number, written, _⟩
      rw [write, document, lawful.write_infinite unwritable] at written
      rcases number.exists_begin with ⟨character, word, equal, begins⟩
      rw [equal] at written
      cases written
      exact ne_of_begins begins (by decide) (by decide) rfl

end FieldType

/-! ## Written objects -/

section Written

variable {α : Type} {names : List String} {fields : List α} {write : α → List Char}
  {members : List Member} (distinct : names.Nodup) (sameLength : fields.length = names.length)
  (written : members.map (fun member => (member.name, member.value)) =
    (names.zip fields).map fun pair => (pair.1, write pair.2))
include written sameLength

theorem names_written : members.map Member.name = names := by
  have first := congrArg (List.map Prod.fst) written
  rwa [List.map_map, List.map_map, Function.comp_def, Function.comp_def,
    show (names.zip fields).map (fun pair => pair.1) = names from
      List.map_fst_zip (Nat.le_of_eq sameLength.symm)] at first

include distinct

theorem occurrences_written_le (name : String) : RecordShape.occurrences members name ≤ 1 := by
  have counted : RecordShape.occurrences members name = names.count name := by
    rw [← names_written sameLength written, RecordShape.occurrences, List.count,
      List.countP_map]
    rfl
  rw [counted]
  exact List.nodup_iff_count_le_one.mp distinct name

theorem value_of_mem_written {name : String} {field : α} (paired : (name, field) ∈ names.zip fields)
    {member : Member} (inMembers : member ∈ members) (isNamed : member.name = name) :
    member.value = write field := by
  have mapped := List.mem_map_of_mem (f := fun member : Member => (member.name, member.value))
    inMembers
  rw [written] at mapped
  rcases List.mem_map.mp mapped with ⟨pair, inPairs, equal⟩
  have keys : ((names.zip fields).map Prod.fst).Nodup := by
    rwa [List.map_fst_zip (Nat.le_of_eq sameLength.symm)]
  have sameName : pair.1 = name := (congrArg Prod.fst equal).trans isNamed
  rw [List.inj_on_of_nodup_map keys inPairs paired sameName] at equal
  exact (congrArg Prod.snd equal).symm

end Written

/-! ## Records -/

/-- What it means for a type of records, each of them of certain fields, to be written and
read by a codec. -/
structure RoundTrips {α β : Type} (codec : Codec) (shape : RecordShape α) (fields : β → List α)
    (document : β → Document) (decode : String → Except Fault β) : Prop where
  /-- What is written for a value is read as the value. -/
  decode_encode : ∀ value, (∀ field ∈ fields value, shape.fieldType.isWritable field = true ∧
      shape.fieldType.ReadsBack codec.toLibrary field) →
    decode (codec.encode (document value)) = .ok value
  /-- What is written for a value with a field that cannot be written is refused. -/
  unwritable : ∀ value, (∃ field ∈ fields value, shape.fieldType.isWritable field = false) →
    ∃ fault, decode (codec.encode (document value)) = .error fault
  /-- An object is read as a value just if it gives each field of the value, whatever the
  order of its members and whatever other members it has. -/
  decode_object : ∀ (object : ObjectText) value, decode (String.ofList object.text) = .ok value ↔
    List.Forall₂ (RecordShape.GivesField shape.missing (shape.fieldType.Means codec.toLibrary)
      object.members) shape.names (fields value)
  /-- Nothing but a repeated, a meaningless or a missing field makes an object refused. -/
  decodes_object : ∀ object : ObjectText,
    (∀ name ∈ shape.names, RecordShape.occurrences object.members name ≤ 1) →
    (∀ member ∈ object.members, member.name ∈ shape.names →
      ∃ field, shape.fieldType.Means codec.toLibrary member.value field) →
    (∀ name ∈ shape.names, (∀ member ∈ object.members, member.name ≠ name) →
      shape.missing.isSome) →
    ∃ value, decode (String.ofList object.text) = .ok value
  repeated : ∀ (object : ObjectText), ∀ name ∈ shape.names,
    2 ≤ RecordShape.occurrences object.members name →
    ∃ fault, decode (String.ofList object.text) = .error fault
  omitted : shape.missing = none → ∀ (object : ObjectText), ∀ name ∈ shape.names,
    (∀ member ∈ object.members, member.name ≠ name) →
    ∃ fault, decode (String.ofList object.text) = .error fault
  /-- An array is read as the value whose fields its items mean in their order. -/
  decode_array : ∀ (array : ArrayText) value,
    List.Forall₂ (fun item field => shape.fieldType.Means codec.toLibrary item.value field)
      array.items (fields value) →
    decode (String.ofList array.text) = .ok value

section Records

variable {α β : Type} {codec : Codec} {shape : RecordShape α} {fields : β → List α}
  {build : List α → Option β}

theorem exists_fault {result : Except Fault β} (noValue : ∀ value, result ≠ .ok value) :
    ∃ fault, result = .error fault := by
  cases result with
  | error fault => exact ⟨fault, rfl⟩
  | ok value => exact absurd rfl (noValue value)

theorem decode_eq_ok_iff (builds : ∀ list value, build list = some value ↔ fields value = list)
    (text : List Char) (value : β) :
    codec.decode shape build (String.ofList text) = .ok value ↔
      codec.decodeFields shape text = .ok (fields value) := by
  rw [Codec.decode, String.toList_ofList]
  cases read : codec.decodeFields shape text with
  | error fault => exact iff_of_false (fun equal => by cases equal) (fun equal => by cases equal)
  | ok list =>
      have built : list = fields value ↔ build list = some value := by
        rw [builds, eq_comm]
      rw [Except.ok.injEq, built]
      simp only [bind, Except.bind]
      cases build list <;> simp

theorem eq_of_occurrences_le {members : List Member} {name : String}
    (once : RecordShape.occurrences members name ≤ 1) {first second : Member}
    (inFirst : first ∈ members) (isFirst : first.name = name) (inSecond : second ∈ members)
    (isSecond : second.name = name) : first = second := by
  rw [RecordShape.occurrences, List.countP_eq_length_filter] at once
  have memFirst : first ∈ members.filter fun member => member.name == name :=
    List.mem_filter.mpr ⟨inFirst, by simpa using isFirst⟩
  have memSecond : second ∈ members.filter fun member => member.name == name :=
    List.mem_filter.mpr ⟨inSecond, by simpa using isSecond⟩
  generalize members.filter _ = named at once memFirst memSecond
  cases named with
  | nil => cases memFirst
  | cons only others =>
      rw [List.length_cons, Nat.succ_le_succ_iff, Nat.le_zero, List.length_eq_zero_iff] at once
      subst once
      rw [List.mem_singleton.mp memFirst, List.mem_singleton.mp memSecond]

theorem exists_givesField {missing : Option α} {means : List Char → α → Prop}
    {members : List Member} {name : String} (inNames : name ∈ shape.names)
    (once : RecordShape.occurrences members name ≤ 1)
    (meant : ∀ member ∈ members, member.name ∈ shape.names → ∃ field, means member.value field)
    (present : (∀ member ∈ members, member.name ≠ name) → missing.isSome) :
    ∃ field, RecordShape.GivesField missing means members name field := by
  by_cases named : ∃ member ∈ members, member.name = name
  · rcases named with ⟨member, inMembers, isNamed⟩
    rcases meant member inMembers (isNamed ▸ inNames) with ⟨field, isMeant⟩
    refine ⟨field, once, fun other inOthers alsoNamed => ?_, fun absent => ?_⟩
    · rwa [eq_of_occurrences_le once inOthers alsoNamed inMembers isNamed]
    · exact absurd isNamed (absent member inMembers)
  · have absent : ∀ member ∈ members, member.name ≠ name :=
      fun member inMembers isNamed => named ⟨member, inMembers, isNamed⟩
    rcases Option.isSome_iff_exists.mp (present absent) with ⟨field, isMissing⟩
    exact ⟨field, once, fun member inMembers isNamed => absurd isNamed (absent member inMembers),
      fun _ => isMissing⟩

theorem givesField_written {missing : Option α} {means : List Char → α → Prop}
    {names : List String} {list : List α} {write : α → List Char} {members : List Member}
    (distinct : names.Nodup) (sameLength : list.length = names.length)
    (written : members.map (fun member => (member.name, member.value)) =
      (names.zip list).map fun pair => (pair.1, write pair.2))
    (meant : ∀ field ∈ list, means (write field) field) :
    List.Forall₂ (RecordShape.GivesField missing means members) names list := by
  rw [List.forall₂_iff_zip]
  refine ⟨sameLength.symm, fun {name field} paired => ?_⟩
  refine ⟨occurrences_written_le distinct sameLength written name,
    fun member inMembers isNamed => ?_, fun absent => ?_⟩
  · rw [value_of_mem_written distinct sameLength written paired inMembers isNamed]
    exact meant field (List.of_mem_zip paired).2
  · have isNamed : name ∈ members.map Member.name := by
      rw [names_written sameLength written]
      exact (List.of_mem_zip paired).1
    rcases List.mem_map.mp isNamed with ⟨member, inMembers, equal⟩
    exact absurd equal (absent member inMembers)

theorem not_givesField_written {missing : Option α} {means : List Char → α → Prop}
    {names : List String} {list read : List α} {write : α → List Char} {members : List Member}
    (distinct : names.Nodup) (sameLength : list.length = names.length)
    (written : members.map (fun member => (member.name, member.value)) =
      (names.zip list).map fun pair => (pair.1, write pair.2))
    {field : α} (inList : field ∈ list) (meaningless : ∀ value, ¬ means (write field) value) :
    ¬ List.Forall₂ (RecordShape.GivesField missing means members) names read := by
  intro given
  rw [← List.map_snd_zip (Nat.le_of_eq sameLength)] at inList
  rcases List.mem_map.mp inList with ⟨⟨name, same⟩, paired, rfl⟩
  have inNames := (List.of_mem_zip paired).1
  rcases exists_of_forall₂ given inNames with ⟨value, gives⟩
  rw [← names_written sameLength written] at inNames
  rcases List.mem_map.mp inNames with ⟨member, inMembers, isNamed⟩
  have isMeant := gives.given member inMembers isNamed
  rw [value_of_mem_written distinct sameLength written paired inMembers isNamed] at isMeant
  exact meaningless value isMeant

theorem exists_object_encode (lawful : codec.Lawful) (list : List α) :
    ∃ object : ObjectText,
      codec.encode (.object (shape.names.zip (list.map shape.fieldType.document))) =
        String.ofList object.text ∧
      object.members.map (fun member => (member.name, member.value)) =
        (shape.names.zip list).map fun pair =>
          (pair.1, shape.fieldType.write codec.toLibrary pair.2) := by
  have areValues : ∀ member ∈ shape.names.zip (list.map shape.fieldType.document),
      IsValue (codec.write member.2) := by
    intro member inMembers
    rw [List.zip_map_right] at inMembers
    rcases List.mem_map.mp inMembers with ⟨pair, _, rfl⟩
    exact shape.fieldType.isValue_write lawful.toLawful pair.2
  rcases lawful.write_object areValues with ⟨object, text, members⟩
  refine ⟨object, congrArg String.ofList text, ?_⟩
  rw [members, List.zip_map_right, List.map_map]
  rfl

/-- A record is written and read field by field, if each list of as many fields as there
are names is the fields of one value. -/
theorem roundTrips (lawful : codec.Lawful) {document : β → Document}
    (distinct : shape.names.Nodup)
    (sameLength : ∀ value, (fields value).length = shape.names.length)
    (builds : ∀ list value, build list = some value ↔ fields value = list)
    (complete : ∀ list, list.length = shape.names.length → ∃ value, build list = some value)
    (documents : ∀ value, document value =
      .object (shape.names.zip ((fields value).map shape.fieldType.document))) :
    RoundTrips codec shape fields document (codec.decode shape build) := by
  have field := shape.fieldType.readsField lawful.toLawful
  have decodes (object : ObjectText) (value : β) :
      codec.decode shape build (String.ofList object.text) = .ok value ↔
        List.Forall₂ (RecordShape.GivesField shape.missing
          (shape.fieldType.Means codec.toLibrary) object.members) shape.names (fields value) :=
    (decode_eq_ok_iff builds object.text value).trans
      (RecordShape.decodeFields_object_iff lawful field object)
  refine ⟨fun value readable => ?_, fun value withheld => ?_, decodes,
    fun object once meant present => ?_, fun object name inNames twice => ?_,
    fun required object name inNames absent => ?_, fun array value each => ?_⟩
  · rcases exists_object_encode lawful (fields value) with ⟨object, text, members⟩
    rw [documents, text, decodes]
    refine givesField_written distinct (sameLength value) members fun field inFields => ?_
    have ⟨writable, readsBack⟩ := readable field inFields
    exact shape.fieldType.means_write lawful.toLawful writable readsBack
  · rcases exists_object_encode lawful (fields value) with ⟨object, text, members⟩
    rcases withheld with ⟨field, inFields, unwritable⟩
    refine exists_fault fun other equal => ?_
    rw [documents, text, decodes] at equal
    exact not_givesField_written distinct (sameLength value) members inFields
      (shape.fieldType.not_means_write lawful.toLawful unwritable) equal
  · rcases exists_forall₂ fun name inNames => exists_givesField inNames
      (once name inNames) meant (present name inNames) with ⟨list, gives⟩
    rcases complete list gives.length_eq.symm with ⟨value, built⟩
    refine ⟨value, (decodes object value).mpr ?_⟩
    rw [(builds list value).mp built]
    exact gives
  · refine exists_fault fun value equal => ?_
    rcases exists_of_forall₂ ((decodes object value).mp equal) inNames with
      ⟨field, gives⟩
    exact absurd gives.once (Nat.not_le_of_gt twice)
  · refine exists_fault fun value equal => ?_
    rcases exists_of_forall₂ ((decodes object value).mp equal) inNames with
      ⟨field, gives⟩
    have isMissing := gives.omitted absent
    rw [required] at isMissing
    cases isMissing
  · rw [decode_eq_ok_iff builds]
    exact RecordShape.decodeFields_array lawful field array each (sameLength value)

end Records

end PlanarMesh.Json

namespace PlanarMesh

open Json

/-! ## Geometry and settings -/

variable {codec : Codec} (lawful : codec.Lawful)

theorem Vec3.ofFields?_eq_some_iff (list : List Float) (vector : Vec3) :
    ofFields? list = some vector ↔ vector.toList = list := by
  constructor
  · intro built
    unfold ofFields? at built
    split at built <;> cases built
    rfl
  · rintro rfl
    rfl

include lawful in
theorem Vec3.roundTrips : RoundTrips codec shape toList document (decodeBy codec) :=
  Json.roundTrips lawful (by decide) (fun _ => rfl) ofFields?_eq_some_iff
    (fun | [_, _, _], _ => ⟨_, rfl⟩) (fun _ => rfl)

theorem Point3.ofFields?_eq_some_iff (list : List Float) (point : Point3) :
    ofFields? list = some point ↔ point.toList = list := by
  constructor
  · intro built
    unfold ofFields? at built
    split at built <;> cases built
    rfl
  · rintro rfl
    rfl

include lawful in
theorem Point3.roundTrips : RoundTrips codec shape toList document (decodeBy codec) :=
  Json.roundTrips lawful (by decide) (fun _ => rfl) ofFields?_eq_some_iff
    (fun | [_, _, _], _ => ⟨_, rfl⟩) (fun _ => rfl)

theorem TexCoord.ofFields?_eq_some_iff (list : List Float) (coordinate : TexCoord) :
    ofFields? list = some coordinate ↔ coordinate.toList = list := by
  constructor
  · intro built
    unfold ofFields? at built
    split at built <;> cases built
    rfl
  · rintro rfl
    rfl

include lawful in
theorem TexCoord.roundTrips : RoundTrips codec shape toList document (decodeBy codec) :=
  Json.roundTrips lawful (by decide) (fun _ => rfl) ofFields?_eq_some_iff
    (fun | [_, _], _ => ⟨_, rfl⟩) (fun _ => rfl)

theorem Tolerance.ofFields?_eq_some_iff (list : List Float) (tolerance : Tolerance) :
    ofFields? list = some tolerance ↔ [tolerance.eps] = list := by
  constructor
  · intro built
    unfold ofFields? at built
    split at built <;> cases built
    rfl
  · rintro rfl
    rfl

include lawful in
theorem Tolerance.roundTrips :
    RoundTrips codec shape (fun tolerance => [tolerance.eps]) document (decodeBy codec) :=
  Json.roundTrips lawful (by decide) (fun _ => rfl) ofFields?_eq_some_iff
    (fun | [_], _ => ⟨_, rfl⟩) (fun _ => rfl)

theorem BuildOptions.ofFields?_eq_some_iff (list : List Bool) (options : BuildOptions) :
    ofFields? list = some options ↔ [options.tessellate, options.optimize] = list := by
  constructor
  · intro built
    unfold ofFields? at built
    split at built <;> cases built
    rfl
  · rintro rfl
    rfl

include lawful in
theorem BuildOptions.roundTrips :
    RoundTrips codec shape (fun options => [options.tessellate, options.optimize]) document
      (decodeBy codec) :=
  Json.roundTrips lawful (by decide) (fun _ => rfl) ofFields?_eq_some_iff
    (fun | [_, _], _ => ⟨_, rfl⟩) (fun _ => rfl)

/-- Vectors, points, texture coordinates and tolerances are read back bit for bit where all
their numbers are finite and read back, build options always. -/
theorem records_roundTrip (codec : Codec) (lawful : codec.Lawful) :
    RoundTrips codec Vec3.shape Vec3.toList Vec3.document (Vec3.decodeBy codec) ∧
    RoundTrips codec Point3.shape Point3.toList Point3.document (Point3.decodeBy codec) ∧
    RoundTrips codec TexCoord.shape TexCoord.toList TexCoord.document
      (TexCoord.decodeBy codec) ∧
    RoundTrips codec Tolerance.shape (fun tolerance => [tolerance.eps]) Tolerance.document
      (Tolerance.decodeBy codec) ∧
    RoundTrips codec BuildOptions.shape (fun options => [options.tessellate, options.optimize])
      BuildOptions.document (BuildOptions.decodeBy codec) :=
  ⟨Vec3.roundTrips lawful, Point3.roundTrips lawful, TexCoord.roundTrips lawful,
    Tolerance.roundTrips lawful, BuildOptions.roundTrips lawful⟩

/-- A vector with a negative zero, and settings that are off, through the nearest codec. -/
theorem records_roundTrip_nearest :
    (Codec.nearest.Lawful ∧ ∀ number ∈ Vec3.toList ⟨1.5, -0.0, 0.1⟩,
      number.isFinite = true ∧ Codec.nearest.ReadsBack number) ∧
    Vec3.decodeBy .nearest (Codec.nearest.encode (Vec3.document ⟨1.5, -0.0, 0.1⟩)) =
      .ok ⟨1.5, -0.0, 0.1⟩ ∧
    BuildOptions.decodeBy .nearest (Codec.nearest.encode (BuildOptions.document ⟨false, true⟩)) =
      .ok ⟨false, true⟩ := by
  have lawful : Codec.nearest.Lawful := Codec.lawful_standard Decimal.toFloat
  have finite : ∀ number ∈ Vec3.toList ⟨1.5, -0.0, 0.1⟩, number.isFinite = true := by
    decide
  have readsBack : ∀ number ∈ Vec3.toList ⟨1.5, -0.0, 0.1⟩,
      number.isFinite = true ∧ Codec.nearest.ReadsBack number :=
    fun number member => ⟨finite number member, readsBack_nearest (finite number member)⟩
  have ⟨vectors, _, _, _, settings⟩ := records_roundTrip .nearest lawful
  exact ⟨⟨lawful, readsBack⟩, vectors.decode_encode _ readsBack,
    settings.decode_encode _ fun _ _ => ⟨rfl, trivial⟩⟩

end PlanarMesh
