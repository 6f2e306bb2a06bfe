import FogNetwork.Proofs.Documents

/-! The spellings of a document: a record may list its fields in another order, carry fields of no
meaning, or be the list of its values. All spellings of a document read as the same value. -/

namespace FogNetwork

open Coded Coded.Faithful

namespace Json

theorem field?_append (name : String) (front back : List (String × Json)) :
    field? name (front ++ back) = (field? name front).or (field? name back) := by
  induction front with
  | nil => simp [field?]
  | cons first rest ih =>
      simp only [List.cons_append, field?]
      split
      · rfl
      · exact ih

theorem field?_unknown {front back : List (String × Json)} {name other : String} (json : Json)
    (differs : other ≠ name) :
    field? name (front ++ (other, json) :: back) = field? name (front ++ back) := by
  simp [field?_append, field?, differs]

theorem field?_eq_some_iff {fields : List (String × Json)}
    (distinct : (fields.map Prod.fst).Nodup) {name : String} {json : Json} :
    field? name fields = some json ↔ (name, json) ∈ fields := by
  induction fields with
  | nil => simp [field?]
  | cons first rest ih =>
      obtain ⟨apart, later⟩ := List.nodup_cons.mp distinct
      simp only [field?, List.mem_cons]
      split
      next here =>
        subst here
        constructor
        · intro own
          cases own
          exact .inl rfl
        · rintro (own | among)
          · exact congrArg some (congrArg Prod.snd own).symm
          · exact absurd (List.mem_map_of_mem among) apart
      next other =>
        rw [ih later]
        constructor
        · exact .inr
        · rintro (rfl | among)
          · exact absurd rfl other
          · exact among

theorem field?_perm {fields others : List (String × Json)} (perm : fields.Perm others)
    (distinct : (fields.map Prod.fst).Nodup) (name : String) :
    field? name fields = field? name others := by
  have others_distinct := (perm.map Prod.fst).nodup_iff.mp distinct
  ext json
  rw [field?_eq_some_iff distinct, field?_eq_some_iff others_distinct, perm.mem_iff]

end Json

/-- What a document consists of, as far as its spellings go. -/
inductive Form where
  | plain
  | choice
  | list (item : Form)
  | table (item : Form)
  | optional (item : Form)
  | defaulting (standard : Json) (item : Form)
  | record (fields : List (String × Form))

namespace Form

/-- The document that a missing field counts as. -/
def standIn? : Form → Option Json
  | .optional _ => some .null
  | .defaulting standard _ => some standard
  | _ => none

/-- One change of spelling, at any depth of a document. -/
inductive Respells : Form → Json → Json → Prop
  | order {specs : List (String × Form)} {fields others : List (String × Json)}
      (perm : fields.Perm others) (distinct : (fields.map Prod.fst).Nodup) :
      Respells (.record specs) (.record fields) (.record others)
  | unknown {specs : List (String × Form)} {front back : List (String × Json)} {name : String}
      (json : Json) (foreign : name ∉ specs.map Prod.fst) :
      Respells (.record specs) (.record (front ++ back)) (.record (front ++ (name, json) :: back))
  | missing {specs : List (String × Form)} {fields : List (String × Json)} {name : String}
      {form : Form} {json : Json} (own : (name, form) ∈ specs) (usual : form.standIn? = some json)
      (absent : Json.field? name fields = none) :
      Respells (.record specs) (.record fields) (.record (fields ++ [(name, json)]))
  | values {specs : List (String × Form)} {fields : List (String × Json)} {items : List Json}
      (full : specs.map (fun spec => Json.field? spec.1 fields) = items.map some) :
      Respells (.record specs) (.record fields) (.list items)
  | field {specs : List (String × Form)} {front back : List (String × Json)} {name : String}
      {form : Form} {json other : Json} (own : (name, form) ∈ specs)
      (inside : form.Respells json other) :
      Respells (.record specs) (.record (front ++ (name, json) :: back))
        (.record (front ++ (name, other) :: back))
  | value {specs : List (String × Form)} {front back : List Json} {name : String} {form : Form}
      {json other : Json} (own : specs[front.length]? = some (name, form))
      (inside : form.Respells json other) :
      Respells (.record specs) (.list (front ++ json :: back)) (.list (front ++ other :: back))
  | item {item : Form} {front back : List Json} {json other : Json}
      (inside : item.Respells json other) :
      Respells (.list item) (.list (front ++ json :: back)) (.list (front ++ other :: back))
  | entryOrder {item : Form} {fields others : List (String × Json)} (perm : fields.Perm others)
      (distinct : (fields.map Prod.fst).Nodup) :
      Respells (.table item) (.record fields) (.record others)
  | entry {item : Form} {front back : List (String × Json)} {name : String} {json other : Json}
      (inside : item.Respells json other) :
      Respells (.table item) (.record (front ++ (name, json) :: back))
        (.record (front ++ (name, other) :: back))
  | present {item : Form} {json other : Json} (inside : item.Respells json other) :
      Respells (.optional item) json other
  | given {standard : Json} {item : Form} {json other : Json}
      (inside : item.Respells json other) : Respells (.defaulting standard item) json other
  | variant (name : String) : Respells .choice (.string name) (.record [(name, .null)])

def Respelled (form : Form) : Json → Json → Prop := Relation.EqvGen form.Respells

theorem Respells.ne_null {form : Form} {json other : Json} (step : form.Respells json other) :
    json ≠ .null ∧ other ≠ .null := by
  induction step with
  | present _ ih => exact ih
  | given _ ih => exact ih
  | _ => simp

inductive Bears (form : Form) : Option Json → Option Json → Prop
  | same (field : Option Json) : Bears form field field
  | respelled {json other : Json} (inside : form.Respells json other) :
      Bears form (some json) (some other)
  | absent {json : Json} (usual : form.standIn? = some json) : Bears form none (some json)

inductive AllBear : List (String × Form) → List (Option Json) → List (Option Json) → Prop
  | nil : AllBear [] [] []
  | cons {name : String} {form : Form} {left right : Option Json} {specs : List (String × Form)}
      {lefts rights : List (Option Json)} (first : form.Bears left right)
      (later : AllBear specs lefts rights) :
      AllBear ((name, form) :: specs) (left :: lefts) (right :: rights)

theorem AllBear.same {specs : List (String × Form)} {fields : List (Option Json)}
    (full : fields.length = specs.length) : AllBear specs fields fields := by
  induction specs generalizing fields with
  | nil =>
      cases List.length_eq_zero_iff.mp full
      exact .nil
  | cons spec specs ih =>
      cases fields with
      | nil => cases full
      | cons field fields => exact .cons (.same field) (ih (Nat.succ.inj full))

theorem allBear_map {specs : List (String × Form)} {fields others : List (String × Json)}
    (bears : ∀ spec ∈ specs,
      spec.2.Bears (Json.field? spec.1 fields) (Json.field? spec.1 others)) :
    AllBear specs (specs.map fun spec => Json.field? spec.1 fields)
      (specs.map fun spec => Json.field? spec.1 others) := by
  induction specs with
  | nil => exact .nil
  | cons spec specs ih =>
      exact .cons (bears spec (by simp)) (ih fun other member => bears other (by simp [member]))

theorem allBear_append {specs : List (String × Form)} {front back : List (Option Json)}
    {name : String} {form : Form} {left right : Option Json} (bears : form.Bears left right)
    (own : specs[front.length]? = some (name, form))
    (full : (front ++ left :: back).length = specs.length) :
    AllBear specs (front ++ left :: back) (front ++ right :: back) := by
  induction front generalizing specs with
  | nil =>
      cases specs with
      | nil => cases own
      | cons spec specs =>
          cases own
          exact .cons bears (.same (Nat.succ.inj full))
  | cons field front ih =>
      cases specs with
      | nil => cases own
      | cons spec specs => exact .cons (.same field) (ih own (Nat.succ.inj full))

theorem bears_replaced {specs : List (String × Form)} (distinct : (specs.map Prod.fst).Nodup)
    {spec : String × Form} (listed : spec ∈ specs) {front back : List (String × Json)}
    {name : String} {form : Form} {json other : Json} (own : (name, form) ∈ specs)
    (inside : form.Respells json other) :
    spec.2.Bears (Json.field? spec.1 (front ++ (name, json) :: back))
      (Json.field? spec.1 (front ++ (name, other) :: back)) := by
  simp only [Json.field?_append, Json.field?]
  -- Only the first field of a name is read, so behind an earlier one the change goes unseen.
  cases Json.field? spec.1 front with
  | some earlier => exact .same _
  | none =>
      split
      next here =>
        have same : spec = (name, form) :=
          List.inj_on_of_nodup_map distinct listed own here.symm
        subst same
        exact .respelled inside
      next _ => exact .same _

theorem bears_missing {specs : List (String × Form)} (distinct : (specs.map Prod.fst).Nodup)
    {spec : String × Form} (listed : spec ∈ specs) {fields : List (String × Json)} {name : String}
    {form : Form} {json : Json} (own : (name, form) ∈ specs) (usual : form.standIn? = some json)
    (absent : Json.field? name fields = none) :
    spec.2.Bears (Json.field? spec.1 fields)
      (Json.field? spec.1 (fields ++ [(name, json)])) := by
  simp only [Json.field?_append, Json.field?]
  split
  next here =>
    have same : spec = (name, form) := List.inj_on_of_nodup_map distinct listed own here.symm
    subst same
    rw [absent]
    exact .absent usual
  next _ => simpa using .same _

end Form

namespace Coded

open Form

variable {α : Type}

theorem fields?_record (specs : List (String × Form)) (spare : Nat)
    (fields : List (String × Json)) :
    fields? (specs.map Prod.fst) spare (.record fields) =
      some (specs.map fun spec => Json.field? spec.1 fields) := by
  simp [fields?]

theorem fields?_respelled {specs : List (String × Form)} (distinct : (specs.map Prod.fst).Nodup)
    {build : List (Option Json) → Option α}
    (respects : ∀ {lefts rights}, AllBear specs lefts rights → build lefts = build rights)
    {json other : Json} (step : (Form.record specs).Respells json other) (spare : Nat) :
    (fields? (specs.map Prod.fst) spare json).bind build =
      (fields? (specs.map Prod.fst) spare other).bind build := by
  cases step with
  | order perm apart =>
      simp only [fields?_record, Option.bind_some]
      refine respects (allBear_map fun spec _ => ?_)
      rw [Json.field?_perm perm apart]
      exact .same _
  | unknown json foreign =>
      simp only [fields?_record, Option.bind_some]
      refine respects (allBear_map fun spec listed => ?_)
      rw [Json.field?_unknown]
      · exact .same _
      · rintro rfl
        exact foreign (List.mem_map_of_mem listed)
  | missing own usual absent =>
      simp only [fields?_record, Option.bind_some]
      exact respects (allBear_map fun spec listed => bears_missing distinct listed own usual absent)
  | field own inside =>
      simp only [fields?_record, Option.bind_some]
      exact respects (allBear_map fun spec listed => bears_replaced distinct listed own inside)
  | @values _ fields items full =>
      have length : items.length = specs.length := by
        simpa using (congrArg List.length full).symm
      simp [fields?, length, ← full, Function.comp_def]
  | @value _ front back name form json other own inside =>
      have length : (front ++ other :: back).length = (front ++ json :: back).length := by simp
      simp only [fields?, length]
      split
      next fits =>
        simp only [List.map_append, List.map_cons, List.append_assoc, List.cons_append,
          Option.bind_some]
        refine respects (allBear_append (.respelled inside) (by simpa using own) ?_)
        simp only [List.length_append, List.length_cons, List.length_map] at fits ⊢
        simp
        omega
      next _ => rfl

end Coded

class Formed (α : Type) where
  form : Form

export Formed (form)

namespace Coded

class Lenient (α : Type) [Coded α] [Formed α] : Prop where
  standIn?_form : (form α).standIn? = none
  respelled : ∀ {json other : Json}, (form α).Respells json other →
    (decode? json : Option α) = decode? other

section Parts

variable {α : Type} [Coded α] [Bounded α] [Faithful α] [Formed α] [Lenient α]

omit [Bounded α] [Faithful α] in
theorem required?_congr {left right : Option Json} (bears : (form α).Bears left right) :
    (required? left : Option α) = required? right := by
  cases bears with
  | same => rfl
  | respelled inside => exact Lenient.respelled inside
  | absent usual =>
      rw [Lenient.standIn?_form] at usual
      cases usual

omit [Bounded α] [Faithful α] in
theorem optional?_congr {left right : Option Json}
    (bears : (Form.optional (form α)).Bears left right) :
    (optional? left : Option (Option α)) = optional? right := by
  cases bears with
  | same => rfl
  | respelled inside =>
      cases inside with
      | present inside =>
          rw [optional?_eq inside.ne_null.1, optional?_eq inside.ne_null.2,
            Lenient.respelled inside]
  | absent usual =>
      cases usual
      rfl

theorem defaulting?_congr {standard : α} (fits : Fits standard) {left right : Option Json}
    (bears : (Form.defaulting (encode standard) (form α)).Bears left right) :
    defaulting? standard left = defaulting? standard right := by
  cases bears with
  | same => rfl
  | respelled inside =>
      cases inside with
      | given inside => exact Lenient.respelled inside
  | absent usual =>
      cases usual
      exact (read_back fits).symm

instance : Formed Nat := ⟨.plain⟩

instance : Lenient Nat where
  standIn?_form := rfl
  respelled := nofun

instance : Formed String := ⟨.plain⟩

instance : Lenient String where
  standIn?_form := rfl
  respelled := nofun

instance : Formed Float := ⟨.plain⟩

instance : Lenient Float where
  standIn?_form := rfl
  respelled := nofun

instance : Formed (List α) := ⟨.list (form α)⟩

instance : Lenient (List α) where
  standIn?_form := rfl
  respelled := by
    intro json other step
    cases step with
    | item inside =>
        change List.mapM _ _ = List.mapM _ _
        simp only [List.mapM_append, List.mapM_cons, Lenient.respelled inside]

end Parts

theorem respelled_congr {α : Type} [Coded α] [Formed α] [Lenient α] {json other : Json}
    (same : (form α).Respelled json other) : (decode? json : Option α) = decode? other := by
  induction same with
  | rel _ _ step => exact Lenient.respelled step
  | refl _ => rfl
  | symm _ _ _ ih => exact ih.symm
  | trans _ _ _ _ _ first second => exact first.trans second

section Records

variable {kind : EntityKind}

instance : Formed (Identifier kind) := ⟨.plain⟩

instance : Lenient (Identifier kind) where
  standIn?_form := rfl
  respelled := nofun

instance : Formed Time := ⟨.plain⟩

instance : Lenient Time where
  standIn?_form := rfl
  respelled := nofun

theorem choice?_congr {json other : Json} (step : Form.choice.Respells json other) :
    choice? json = choice? other := by
  cases step
  rfl

instance : Formed EdgeKind := ⟨.choice⟩

instance : Lenient EdgeKind where
  standIn?_form := rfl
  respelled step := by simp only [decode?, choice?_congr step]

instance : Formed Direction := ⟨.choice⟩

instance : Lenient Direction where
  standIn?_form := rfl
  respelled step := by simp only [decode?, choice?_congr step]

instance : Formed Origin := ⟨.choice⟩

instance : Lenient Origin where
  standIn?_form := rfl
  respelled step := by simp only [decode?, choice?_congr step]

instance : Formed Edge where
  form := .record
    [("source", form String), ("destination", form String), ("tuple_type", form String),
      ("cpu_length", form Nat), ("data_size", form Nat), ("direction", form Direction),
      ("kind", form EdgeKind)]

instance : Lenient Edge where
  standIn?_form := rfl
  respelled step := by
    refine fields?_respelled (by decide) ?_ step 0
    rintro _ _ (_ | ⟨source, _ | ⟨destination, _ | ⟨tupleType, _ | ⟨length, _ | ⟨size, _ |
      ⟨direction, _ | ⟨kind, _ | _⟩⟩⟩⟩⟩⟩⟩)
    simp only [required?_congr source, required?_congr destination, required?_congr tupleType,
      required?_congr length, required?_congr size, required?_congr direction,
      required?_congr kind]

instance : Formed Subscription where
  form := .record [("actuator", form ActuatorId), ("tuple_type", form String)]

instance : Lenient Subscription where
  standIn?_form := rfl
  respelled step := by
    refine fields?_respelled (by decide) ?_ step 0
    rintro _ _ (_ | ⟨actuator, _ | ⟨tupleType, _ | _⟩⟩)
    simp only [required?_congr actuator, required?_congr tupleType]

instance : Formed ModuleSpec where
  form := .record
    [("name", form String), ("capacity", form Nat),
      ("subscriptions", form (List Subscription))]

instance : Lenient ModuleSpec where
  standIn?_form := rfl
  respelled step := by
    refine fields?_respelled (by decide) ?_ step 0
    rintro _ _ (_ | ⟨name, _ | ⟨capacity, _ | ⟨subscriptions, _ | _⟩⟩⟩)
    simp only [required?_congr name, required?_congr capacity, required?_congr subscriptions]

instance : Formed LoopPath where
  form := .record
    [("id", form LoopId), ("members", form (List String)), ("deadline", .optional (form Float))]

instance : Lenient LoopPath where
  standIn?_form := rfl
  respelled step := by
    refine fields?_respelled (by decide) ?_ step 0
    rintro _ _ (_ | ⟨id, _ | ⟨members, _ | ⟨deadline, _ | _⟩⟩⟩)
    simp only [required?_congr id, required?_congr members, optional?_congr deadline]

instance : Formed Coverage where
  form := .record
    [("lat_min", form Float), ("lat_max", form Float), ("long_min", form Float),
      ("long_max", form Float)]

instance : Lenient Coverage where
  standIn?_form := rfl
  respelled step := by
    refine fields?_respelled (by decide) ?_ step 0
    rintro _ _ (_ | ⟨latMin, _ | ⟨latMax, _ | ⟨longMin, _ | ⟨longMax, _ | _⟩⟩⟩⟩)
    simp only [required?_congr latMin, required?_congr latMax, required?_congr longMin,
      required?_congr longMax]

instance : Formed Application where
  form := .record
    [("id", form String), ("modules", form (List ModuleSpec)), ("edges", form (List Edge)),
      ("loops", form (List LoopPath)), ("geo_coverage", .optional (form Coverage))]

instance : Lenient Application where
  standIn?_form := rfl
  respelled step := by
    refine fields?_respelled (by decide) ?_ step 0
    rintro _ _ (_ | ⟨id, _ | ⟨modules, _ | ⟨edges, _ | ⟨loops, _ | ⟨coverage, _ | _⟩⟩⟩⟩⟩)
    simp only [required?_congr id, required?_congr modules, required?_congr edges,
      required?_congr loops, optional?_congr coverage]

instance : Formed ParentLink where
  form := .record [("parent", form DeviceId), ("latency", form Nat)]

instance : Lenient ParentLink where
  standIn?_form := rfl
  respelled step := by
    refine fields?_respelled (by decide) ?_ step 0
    rintro _ _ (_ | ⟨parent, _ | ⟨latency, _ | _⟩⟩)
    simp only [required?_congr parent, required?_congr latency]

instance : Formed Config where
  form := .record
    [(Setting.controlInterval.name, .defaulting (encode Config.defaultControlInterval) (form Nat)),
      (Setting.runLength.name, .defaulting (encode Config.defaultRunLength) (form Nat))]

instance : Lenient Config where
  standIn?_form := rfl
  respelled step := by
    refine fields?_respelled (by decide) ?_ step 2
    rintro _ _ (_ | ⟨controlInterval, _ | ⟨runLength, _ | _⟩⟩)
    simp only [defaulting?_congr fits_defaultControlInterval controlInterval,
      defaulting?_congr fits_defaultRunLength runLength]

end Records

section Tables

variable {κ α : Type} [Coded α] {key? : String → Option κ}

def OneName (key? : String → Option κ) : Prop :=
  ∀ ⦃name other key⦄, key? name = some key → key? other = some key → name = other

theorem OneName.nodup_keys (oneName : OneName key?) {fields : List (String × Json)}
    {entries : List (κ × α)}
    (read : List.Forall₂
      (fun field entry => (do return (← key? field.1, ← decode? field.2)) = some entry)
      fields entries)
    (distinct : (fields.map Prod.fst).Nodup) : (entries.map Prod.fst).Nodup := by
  have named : List.Forall₂ (fun name key => key? name = some key) (fields.map Prod.fst)
      (entries.map Prod.fst) := by
    rw [List.forall₂_map_left_iff, List.forall₂_map_right_iff]
    refine read.imp fun field entry own => ?_
    simp only [Option.bind_eq_bind, Option.bind_eq_some_iff] at own
    obtain ⟨key, named, value, _, same⟩ := own
    cases same
    exact named
  have unique : Relator.BiUnique (fun name key => key? name = some key) := by
    constructor
    · exact fun _ _ _ first second => oneName first second
    · intro name key other first second
      exact Option.some.inj (first.symm.trans second)
  exact (List.rel_nodup unique named).mp distinct

variable [Ord κ] [Std.TransOrd κ] [Std.LawfulEqOrd κ] [DecidableEq κ]

theorem decodeTable?_perm (oneName : OneName key?) {fields others : List (String × Json)}
    (perm : fields.Perm others) (distinct : (fields.map Prod.fst).Nodup)
    {map : SortedMap κ α} (read : decodeTable? key? (.record fields) = some map) :
    decodeTable? key? (.record others) = some map := by
  simp only [decodeTable?, Option.bind_eq_bind, Option.bind_eq_some_iff] at read ⊢
  obtain ⟨entries, done, made⟩ := read
  cases made
  have pairs := mapM_eq_some_iff.mp done
  obtain ⟨rearranged, read, same⟩ := List.perm_comp_forall₂ perm.symm pairs
  refine ⟨rearranged, mapM_eq_some_iff.mpr read, congrArg some ?_⟩
  exact (SortedMap.ofList_perm same.symm (oneName.nodup_keys pairs distinct)).symm

variable [Formed α] [Lenient α]

theorem decodeTable?_congr (oneName : OneName key?) {json other : Json}
    (step : (Form.table (form α)).Respells json other) :
    (decodeTable? key? json : Option (SortedMap κ α)) = decodeTable? key? other := by
  cases step with
  | entryOrder perm distinct =>
      ext map
      constructor
      · exact decodeTable?_perm oneName perm distinct
      · exact decodeTable?_perm oneName perm.symm ((perm.map Prod.fst).nodup_iff.mp distinct)
  | entry inside =>
      simp only [decodeTable?, List.mapM_append, List.mapM_cons, Lenient.respelled inside]

theorem oneName_device :
    OneName (κ := DeviceId) fun name => (quantityOfName? name).map Identifier.mk := by
  intro name other key first second
  obtain ⟨number, counted, rfl⟩ := Option.map_eq_some_iff.mp first
  obtain ⟨_, recounted, same⟩ := Option.map_eq_some_iff.mp second
  cases same
  exact (quantityOfName?_eq_some_iff.mp counted).1.symm.trans
    (quantityOfName?_eq_some_iff.mp recounted).1

theorem oneName_some : OneName some := by
  intro name other key first second
  exact Option.some.inj (first.trans second.symm)

instance : Formed Placement where
  form := .record [("assignments", .table (form (List String)))]

instance : Lenient Placement where
  standIn?_form := rfl
  respelled step := by
    refine fields?_respelled (by decide) ?_ step 0
    rintro _ _ (_ | ⟨assignments, _ | _⟩)
    cases assignments with
    | same => rfl
    | respelled inside => simp only [decodeTable?_congr oneName_device inside]
    | absent usual => cases usual

instance : Formed Mapping where
  form := .record [("mapping", .table (form (List String)))]

instance : Lenient Mapping where
  standIn?_form := rfl
  respelled step := by
    refine fields?_respelled (by decide) ?_ step 0
    rintro _ _ (_ | ⟨assignments, _ | _⟩)
    cases assignments with
    | same => rfl
    | respelled inside => simp only [decodeTable?_congr oneName_some inside]
    | absent usual => cases usual

end Tables

end Coded

namespace Coded

/-- Writing and reading agree: a written value is read back, also after it was read from another
document, and every spelling of a document reads alike. -/
structure Consistent (α : Type) [Coded α] [Bounded α] [Formed α] : Prop where
  read_back : ∀ value : α, Fits value → decode? (encode value) = some value
  reread : ∀ (json : Json) (value : α), decode? json = some value →
    decode? (encode value) = some value
  respelled : ∀ json other : Json, (form α).Respelled json other →
    (decode? json : Option α) = decode? other

theorem consistent (α : Type) [Coded α] [Bounded α] [Formed α] [Faithful α] [Lenient α] :
    Consistent α where
  read_back _ := read_back
  reread _ _ read := read_back (fits_of_read read)
  respelled _ _ := respelled_congr

/-- Every type of which a scenario has documents writes and reads them consistently. -/
theorem documents_consistent :
    Consistent Application ∧ Consistent ModuleSpec ∧ Consistent Edge ∧ Consistent LoopPath ∧
      Consistent Subscription ∧ Consistent Coverage ∧ Consistent Placement ∧
      Consistent Mapping ∧ Consistent ParentLink ∧ Consistent Config ∧
      (∀ kind, Consistent (Identifier kind)) ∧ Consistent Time ∧ Consistent EdgeKind ∧
      Consistent Direction ∧ Consistent Origin :=
  ⟨consistent _, consistent _, consistent _, consistent _, consistent _, consistent _,
    consistent _, consistent _, consistent _, consistent _, fun _ => consistent _, consistent _,
    consistent _, consistent _, consistent _⟩

/-- A link written as a list, and as a record in another order with a field of no meaning. -/
example :
    (decode? (.list [.integer 7, .integer 40]) : Option ParentLink) = some ⟨⟨7⟩, 40⟩ ∧
      (decode? (.record [("latency", .integer 40), ("note", .null), ("parent", .integer 7)]) :
        Option ParentLink) = some ⟨⟨7⟩, 40⟩ := by
  decide

end Coded
end FogNetwork
