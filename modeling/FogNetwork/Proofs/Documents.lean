import FogNetwork.Coding.Forms
import FogNetwork.Proofs.Entries
import Mathlib

/-! What is written is read back: every value whose numbers can be written has a document that
reads as this value, and only such values are read. -/

namespace FogNetwork

open Coded

/-- Values whose numbers can be written: they fit 64 bits, and their floats are finite. -/
class Bounded (α : Type) where
  Fits : α → Prop

export Bounded (Fits)

namespace Coded

/-- Reading undoes writing on all values that fit, and no other value is ever read. -/
class Faithful (α : Type) [Coded α] [Bounded α] : Prop where
  read_back : ∀ {value : α}, Fits value → decode? (encode value) = some value
  fits_of_read : ∀ {json : Json} {value : α}, decode? json = some value → Fits value
  null_unread : decode? Json.null = (none : Option α)

open Faithful

theorem mapM_eq_some_iff {α β : Type} {read : α → Option β} {items : List α} {values : List β} :
    items.mapM read = some values ↔ List.Forall₂ (read · = some ·) items values := by
  induction items generalizing values with
  | nil => simp [eq_comm]
  | cons item rest ih =>
      simp only [List.mapM_cons, Option.bind_eq_bind, Option.bind_eq_some_iff,
        Option.pure_def, Option.some.injEq, List.forall₂_cons_left_iff, ih]
      constructor
      · rintro ⟨value, first, others, later, rfl⟩
        exact ⟨value, others, first, later, rfl⟩
      · rintro ⟨value, others, first, later, rfl⟩
        exact ⟨value, first, others, later, rfl⟩

theorem exists_of_mem_mapM {α β : Type} {read : α → Option β} {items : List α} {values : List β}
    (done : items.mapM read = some values) {value : β} (member : value ∈ values) :
    ∃ item ∈ items, read item = some value := by
  induction mapM_eq_some_iff.mp done with
  | nil => cases member
  | @cons item first rest others own later ih =>
      rcases List.mem_cons.mp member with rfl | member
      · exact ⟨item, by simp, own⟩
      · obtain ⟨other, among, read⟩ := ih (mapM_eq_some_iff.mpr later) member
        exact ⟨other, by simp [among], read⟩

section Parts

instance : Bounded Nat := ⟨(· ≤ largest)⟩

instance : Faithful Nat where
  read_back fits := if_pos fits
  fits_of_read := by
    intro json value read
    simp only [decode?] at read
    split at read
    · split at read
      · cases read
        assumption
      · cases read
    · cases read
  null_unread := rfl

instance : Bounded String := ⟨fun _ => True⟩

instance : Faithful String where
  read_back _ := rfl
  fits_of_read _ := trivial
  null_unread := rfl

instance : Bounded Float := ⟨fun value => value.isFinite⟩

instance : Faithful Float where
  read_back := by
    intro value finite
    replace finite : value.isFinite = true := finite
    simp [encode, decode?, number?, finite]
  fits_of_read read := (Option.filter_eq_some_iff.mp read).2
  null_unread := rfl

variable {α : Type} [Coded α] [Bounded α]

instance : Bounded (List α) := ⟨fun values => ∀ value ∈ values, Fits value⟩

instance : Bounded (Option α) := ⟨fun value? => ∀ value ∈ value?, Fits value⟩

variable [Faithful α]

instance : Faithful (List α) where
  read_back := by
    intro values fit
    refine mapM_eq_some_iff.mpr ?_
    rw [List.forall₂_map_left_iff, List.forall₂_same]
    exact fun value member => read_back (fit value member)
  fits_of_read := by
    intro json values read value member
    cases json with
    | list items =>
        obtain ⟨item, -, read⟩ := exists_of_mem_mapM read member
        exact fits_of_read read
    | _ => cases read
  null_unread := rfl

theorem encode_ne_null {value : α} (fits : Fits value) : encode value ≠ .null := by
  intro empty
  have read := read_back fits
  rw [empty, null_unread] at read
  cases read

@[simp] theorem required?_encode {value : α} (fits : Fits value) :
    required? (some (encode value)) = some value :=
  read_back fits

@[simp] theorem defaulting?_encode {standard value : α} (fits : Fits value) :
    defaulting? standard (some (encode value)) = some value :=
  read_back fits

omit [Bounded α] [Faithful α] in
theorem optional?_eq {json : Json} (shown : json ≠ .null) :
    optional? (some json) = (decode? json : Option α).map some := by
  cases json with
  | null => exact absurd rfl shown
  | _ => rfl

@[simp] theorem optional?_encode {value? : Option α} (fits : Fits value?) :
    optional? (some (encode value?)) = some value? := by
  cases value? with
  | none => rfl
  | some value =>
      have own : Fits value := fits value rfl
      change optional? (some (encode value)) = _
      rw [optional?_eq (encode_ne_null own), read_back own]
      rfl

theorem fits_of_required? {field : Option Json} {value : α}
    (read : required? field = some value) : Fits value := by
  obtain ⟨json, -, read⟩ := Option.bind_eq_some_iff.mp read
  exact fits_of_read read

theorem fits_of_optional? {field : Option Json} {value? : Option α}
    (read : optional? field = some value?) : Fits value? := by
  intro value member
  cases field with
  | none =>
      cases read
      cases member
  | some json =>
      by_cases empty : json = .null
      · subst empty
        cases read
        cases member
      · rw [optional?_eq empty, member, Option.map_eq_some_iff] at read
        obtain ⟨_, read, same⟩ := read
        cases same
        exact fits_of_read read

theorem fits_of_defaulting? {standard value : α} {field : Option Json} (fits : Fits standard)
    (read : defaulting? standard field = some value) : Fits value := by
  cases field with
  | none =>
      cases read
      exact fits
  | some json => exact fits_of_read read

end Parts

section Records

variable {kind : EntityKind}

instance : Bounded (Identifier kind) := ⟨fun id => id.number ≤ largest⟩

instance : Faithful (Identifier kind) where
  read_back fits := Option.map_eq_some_iff.mpr ⟨_, read_back (α := Nat) fits, rfl⟩
  fits_of_read := by
    intro json id read
    change (decode? json).map Identifier.mk = some id at read
    obtain ⟨number, counted, rfl⟩ := Option.map_eq_some_iff.mp read
    exact fits_of_read (α := Nat) counted
  null_unread := rfl

instance : Bounded Time := ⟨fun time => time.ticks ≤ largest⟩

instance : Faithful Time where
  read_back fits := Option.map_eq_some_iff.mpr ⟨_, read_back (α := Nat) fits, rfl⟩
  fits_of_read := by
    intro json time read
    change (decode? json).map Time.mk = some time at read
    obtain ⟨ticks, counted, rfl⟩ := Option.map_eq_some_iff.mp read
    exact fits_of_read (α := Nat) counted
  null_unread := rfl

instance : Bounded EdgeKind := ⟨fun _ => True⟩

instance : Faithful EdgeKind where
  read_back := by
    intro kind _
    cases kind with
    | sensor => rfl
    | actuator => rfl
    | module => rfl
  fits_of_read _ := trivial
  null_unread := rfl

instance : Bounded Direction := ⟨fun _ => True⟩

instance : Faithful Direction where
  read_back := by
    intro direction _
    cases direction with
    | up => rfl
    | down => rfl
    | actuator => rfl
  fits_of_read _ := trivial
  null_unread := rfl

instance : Bounded Origin := ⟨fun _ => True⟩

instance : Faithful Origin where
  read_back := by
    intro origin _
    cases origin with
    | sensor => rfl
    | module => rfl
  fits_of_read _ := trivial
  null_unread := rfl

@[simp] theorem fits_text (text : String) : Fits text := trivial

@[simp] theorem fits_edgeKind (kind : EdgeKind) : Fits kind := trivial

@[simp] theorem fits_direction (direction : Direction) : Fits direction := trivial

@[simp] theorem fits_texts (texts : List String) : Fits texts := fun _ _ => trivial

instance : Bounded Edge := ⟨fun edge => Fits edge.cpuLength ∧ Fits edge.dataSize⟩

instance : Faithful Edge where
  read_back := by
    rintro edge ⟨length, size⟩
    delta instCodedEdge
    dsimp only
    simp [fields?, Edge.fieldNames, Json.field?, length, size]
  fits_of_read := by
    intro json edge read
    simp only [decode?, Option.bind_eq_bind, Option.bind_eq_some_iff] at read
    obtain ⟨values, -, read⟩ := read
    split at read
    · simp only [Option.bind_eq_some_iff] at read
      obtain ⟨_, -, _, -, _, -, _, length, _, size, _, -, _, -, made⟩ := read
      cases made
      exact ⟨fits_of_required? length, fits_of_required? size⟩
    · cases read
  null_unread := rfl

instance : Bounded Subscription := ⟨fun subscription => Fits subscription.actuator⟩

instance : Faithful Subscription where
  read_back := by
    intro subscription actuator
    replace actuator : Fits subscription.actuator := actuator
    delta instCodedSubscription
    dsimp only
    simp [fields?, Subscription.fieldNames, Json.field?, actuator]
  fits_of_read := by
    intro json subscription read
    simp only [decode?, Option.bind_eq_bind, Option.bind_eq_some_iff] at read
    obtain ⟨values, -, read⟩ := read
    split at read
    · simp only [Option.bind_eq_some_iff] at read
      obtain ⟨_, actuator, _, -, made⟩ := read
      cases made
      exact fits_of_required? (α := ActuatorId) actuator
    · cases read
  null_unread := rfl

instance : Bounded ModuleSpec := ⟨fun spec => Fits spec.capacity ∧ Fits spec.subscriptions⟩

instance : Faithful ModuleSpec where
  read_back := by
    rintro spec ⟨capacity, subscriptions⟩
    delta instCodedModuleSpec
    dsimp only
    simp [fields?, ModuleSpec.fieldNames, Json.field?, capacity, subscriptions]
  fits_of_read := by
    intro json spec read
    simp only [decode?, Option.bind_eq_bind, Option.bind_eq_some_iff] at read
    obtain ⟨values, -, read⟩ := read
    split at read
    · simp only [Option.bind_eq_some_iff] at read
      obtain ⟨_, -, _, capacity, _, subscriptions, made⟩ := read
      cases made
      exact ⟨fits_of_required? capacity, fits_of_required? subscriptions⟩
    · cases read
  null_unread := rfl

instance : Bounded LoopPath := ⟨fun path => Fits path.id ∧ Fits path.deadline⟩

instance : Faithful LoopPath where
  read_back := by
    rintro path ⟨id, deadline⟩
    delta instCodedLoopPath
    dsimp only
    simp [fields?, LoopPath.fieldNames, Json.field?, id, deadline]
  fits_of_read := by
    intro json path read
    simp only [decode?, Option.bind_eq_bind, Option.bind_eq_some_iff] at read
    obtain ⟨values, -, read⟩ := read
    split at read
    · simp only [Option.bind_eq_some_iff] at read
      obtain ⟨_, id, _, -, _, deadline, made⟩ := read
      cases made
      exact ⟨fits_of_required? id, fits_of_optional? deadline⟩
    · cases read
  null_unread := rfl

instance : Bounded Coverage where
  Fits coverage :=
    Fits coverage.latMin ∧ Fits coverage.latMax ∧ Fits coverage.longMin ∧ Fits coverage.longMax

instance : Faithful Coverage where
  read_back := by
    rintro coverage ⟨latMin, latMax, longMin, longMax⟩
    delta instCodedCoverage
    dsimp only
    simp [fields?, Coverage.fieldNames, Json.field?, latMin, latMax, longMin, longMax]
  fits_of_read := by
    intro json coverage read
    simp only [decode?, Option.bind_eq_bind, Option.bind_eq_some_iff] at read
    obtain ⟨values, -, read⟩ := read
    split at read
    · simp only [Option.bind_eq_some_iff] at read
      obtain ⟨_, latMin, _, latMax, _, longMin, _, longMax, made⟩ := read
      cases made
      exact ⟨fits_of_required? latMin, fits_of_required? latMax, fits_of_required? longMin,
        fits_of_required? longMax⟩
    · cases read
  null_unread := rfl

instance : Bounded Application where
  Fits application :=
    Fits application.modules ∧ Fits application.edges ∧ Fits application.loops ∧
      Fits application.coverage

instance : Faithful Application where
  read_back := by
    rintro application ⟨modules, edges, loops, coverage⟩
    delta instCodedApplication
    dsimp only
    simp [fields?, Application.fieldNames, Json.field?, modules, edges, loops, coverage]
  fits_of_read := by
    intro json application read
    simp only [decode?, Option.bind_eq_bind, Option.bind_eq_some_iff] at read
    obtain ⟨values, -, read⟩ := read
    split at read
    · simp only [Option.bind_eq_some_iff] at read
      obtain ⟨_, -, _, modules, _, edges, _, loops, _, coverage, made⟩ := read
      cases made
      exact ⟨fits_of_required? modules, fits_of_required? edges, fits_of_required? loops,
        fits_of_optional? coverage⟩
    · cases read
  null_unread := rfl

instance : Bounded ParentLink := ⟨fun link => Fits link.parent ∧ Fits link.latency⟩

instance : Faithful ParentLink where
  read_back := by
    rintro link ⟨parent, latency⟩
    delta instCodedParentLink
    dsimp only
    simp [fields?, ParentLink.fieldNames, Json.field?, parent, latency]
  fits_of_read := by
    intro json link read
    simp only [decode?, Option.bind_eq_bind, Option.bind_eq_some_iff] at read
    obtain ⟨values, -, read⟩ := read
    split at read
    · simp only [Option.bind_eq_some_iff] at read
      obtain ⟨_, parent, _, latency, made⟩ := read
      cases made
      exact ⟨fits_of_required? parent, fits_of_required? latency⟩
    · cases read
  null_unread := rfl

instance : Bounded Config := ⟨fun config => Fits config.controlInterval ∧ Fits config.runLength⟩

theorem fits_defaultControlInterval : Fits Config.defaultControlInterval := by
  change (_ ≤ _)
  decide

theorem fits_defaultRunLength : Fits Config.defaultRunLength := by
  change (_ ≤ _)
  decide

instance : Faithful Config where
  read_back := by
    rintro config ⟨controlInterval, runLength⟩
    delta instCodedConfig
    dsimp only
    simp [fields?, Config.fieldNames, Setting.name, Json.field?, controlInterval, runLength]
  fits_of_read := by
    intro json config read
    simp only [decode?, Option.bind_eq_bind, Option.bind_eq_some_iff] at read
    obtain ⟨values, -, read⟩ := read
    split at read
    · simp only [Option.bind_eq_some_iff] at read
      obtain ⟨_, controlInterval, _, runLength, made⟩ := read
      cases made
      exact ⟨fits_of_defaulting? fits_defaultControlInterval controlInterval,
        fits_of_defaulting? fits_defaultRunLength runLength⟩
    · cases read
  null_unread := rfl

end Records

section Tables

theorem quantityOfName?_eq_some_iff {name : String} {value : Nat} :
    quantityOfName? name = some value ↔ toString value = name ∧ value ≤ largest := by
  simp only [quantityOfName?]
  constructor
  · intro read
    split at read
    · split at read
      · cases read
        assumption
      · cases read
    · cases read
  · rintro ⟨rfl, fits⟩
    simp [fits]

variable {κ α : Type} [Ord κ] [Std.TransOrd κ] [Std.LawfulEqOrd κ] [Coded α] [Bounded α] [Faithful α]
variable {key? : String → Option κ} {map : SortedMap κ α}

theorem decodeTable?_encodeTable [DecidableEq κ] {name : κ → String}
    (keys : ∀ entry ∈ map.entries, key? (name entry.1) = some entry.1)
    (values : ∀ entry ∈ map.entries, Fits entry.2) :
    decodeTable? key? (encodeTable name map) = some map := by
  have entries : (map.entries.map fun entry => (name entry.1, encode entry.2)).mapM
      (fun field => do return (← key? field.1, ← decode? field.2)) = some map.entries := by
    rw [mapM_eq_some_iff, List.forall₂_map_left_iff, List.forall₂_same]
    intro entry member
    simp [keys entry member, read_back (values entry member)]
  simp only [decodeTable?, encodeTable, entries]
  exact congrArg some map.ofList_entries

theorem of_mem_decodeTable? [DecidableEq κ] {json : Json} (read : decodeTable? key? json = some map)
    {entry : κ × α} (member : entry ∈ map.entries) :
    (∃ name, key? name = some entry.1) ∧ Fits entry.2 := by
  cases json with
  | record fields =>
      simp only [decodeTable?, Option.bind_eq_bind, Option.bind_eq_some_iff] at read
      obtain ⟨entries, fields, made⟩ := read
      cases made
      have present := SortedMap.mem_of_get?_ofList (SortedMap.get?_eq_some_iff.mpr member)
      obtain ⟨field, -, own⟩ := exists_of_mem_mapM fields present
      simp only [Option.bind_eq_some_iff] at own
      obtain ⟨key, named, value, decoded, same⟩ := own
      cases same
      exact ⟨⟨field.1, named⟩, fits_of_read decoded⟩
  | _ => cases read

instance : Bounded Placement where
  Fits placement := ∀ entry ∈ placement.assignments.entries, Fits entry.1

instance : Faithful Placement where
  read_back := by
    intro placement fits
    have table : decodeTable? (fun name => (quantityOfName? name).map Identifier.mk)
        (encodeTable (fun id => toString id.number) placement.assignments) =
          some placement.assignments := by
      apply decodeTable?_encodeTable
      · intro entry member
        rw [quantityOfName?_eq_some_iff.mpr ⟨rfl, fits entry member⟩]
        rfl
      · exact fun entry _ => fits_texts entry.2
    delta instCodedPlacement
    dsimp only
    simp [fields?, Json.field?, table, -Nat.toString_eq_repr]
  fits_of_read := by
    intro json placement read entry member
    simp only [decode?, Option.bind_eq_bind, Option.bind_eq_some_iff] at read
    obtain ⟨values, -, read⟩ := read
    split at read
    · simp only [Option.bind_eq_some_iff] at read
      obtain ⟨assignments, table, made⟩ := read
      cases made
      obtain ⟨⟨name, named⟩, -⟩ := of_mem_decodeTable? table member
      obtain ⟨number, counted, same⟩ := Option.map_eq_some_iff.mp named
      rw [← same]
      exact (quantityOfName?_eq_some_iff.mp counted).2
    · cases read
  null_unread := rfl

instance : Bounded Mapping := ⟨fun _ => True⟩

instance : Faithful Mapping where
  read_back := by
    intro mapping _
    have table : decodeTable? some (encodeTable (fun name => name) mapping.assignments) =
        some mapping.assignments :=
      decodeTable?_encodeTable (fun _ _ => rfl) fun entry _ => fits_texts entry.2
    delta instCodedMapping
    dsimp only
    simp [fields?, Json.field?, table]
  fits_of_read _ := trivial
  null_unread := rfl

end Tables

end Coded
end FogNetwork
