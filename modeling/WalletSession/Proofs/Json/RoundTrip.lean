import Mathlib.Data.List.Nodup
import WalletSession.Json.Decode
import WalletSession.Proofs.KeyMap

set_option autoImplicit false

/-! # Reading back what was written

Lists, maps and records are read back as they were written if their parts are. A record is written as a list of
named fields, each with its value or left out, and is read back field by field (`RecordShape.exists_source`); a record
that may have other fields is read among them as well (`RecordShape.exists_source_among`). -/

namespace WalletSession

/-! ## Maps -/

namespace KeyMap

variable {α β : Type} {ε : Type}

/-- A map is read back if every value is. -/
theorem traverse_map (read : β → Except ε α) (write : α → β) (h : ∀ v, read (write v) = .ok v)
    (m : KeyMap α) : (m.map fun _ v => write v).traverse read = .ok m := by
  have hall : ∀ key w, (m.map fun _ v => write v).get? key = some w → ∃ v, read w = .ok v := by
    intro key w hw
    rw [get?_map, Option.map_eq_some_iff] at hw
    obtain ⟨v, -, rfl⟩ := hw
    exact ⟨v, h v⟩
  -- `traverse` fails only on a value that cannot be read.
  obtain ⟨r, hr⟩ := traverse_ok_iff.2 hall
  rw [hr]
  congr 1
  ext key value
  rw [get?_traverse hr, get?_map]
  cases m.get? key <;> simp [h, Except.toOption]

end KeyMap

namespace Json

variable {α : Type}

theorem members?_ofMap (m : KeyMap Json) : (ofMap m).members? = some m :=
  congrArg some (KeyMap.ofList_toList m)

theorem decodeMap_ofMap (decode : Decoder α) (write : α → Json) (h : ∀ v, decode (write v) = .ok v)
    (m : KeyMap α) : decodeMap decode (.ofMap (m.map fun _ v => write v)) = .ok m := by
  change (KeyMap.ofList (m.map fun _ v => write v).toList).traverse decode = .ok m
  rw [KeyMap.ofList_toList]
  exact KeyMap.traverse_map decode write h m

theorem traverse_decodeAny (m : KeyMap Json) : m.traverse decodeAny = .ok m := by
  have hm : (m.map fun _ v => v) = m := KeyMap.map_eq_self fun _ _ _ => rfl
  have h := KeyMap.traverse_map decodeAny (fun v => v) (fun _ => rfl) m
  rwa [hm] at h

theorem decodeMap_decodeAny_ofMap (m : KeyMap Json) : decodeMap decodeAny (.ofMap m) = .ok m := by
  change (KeyMap.ofList m.toList).traverse decodeAny = .ok m
  rw [KeyMap.ofList_toList, traverse_decodeAny]

theorem field?_object {fields : List (String × Json)} (hnames : (fields.map (·.1)).Nodup) {name : String}
    {v : Json} (hmem : (name, v) ∈ fields) : (object fields).field? name = some v :=
  (KeyMap.get?_ofList_eq_some_iff fun _ _ _ hv hw =>
    congrArg (·.2) (List.inj_on_of_nodup_map hnames hv hw rfl)).2 hmem

theorem field?_ofFields {fields : List (String × Option Json)} (hnames : (fields.map (·.1)).Nodup)
    {name : String} {v? : Option Json} (hmem : (name, v?) ∈ fields) : (ofFields fields).field? name = v? := by
  have hentry (k : String) (w : Json) :
      (k, w) ∈ fields.filterMap (fun f => f.2.map (f.1, ·)) ↔ (k, some w) ∈ fields := by
    simp only [List.mem_filterMap, Option.map_eq_some_iff, Prod.mk.injEq]
    constructor
    · rintro ⟨f, hf, _, hw, rfl, rfl⟩
      exact hw ▸ hf
    · intro hf
      exact ⟨_, hf, w, rfl, rfl, rfl⟩
  have hinj {k : String} {v w : Option Json} (hv : (k, v) ∈ fields) (hw : (k, w) ∈ fields) : v = w :=
    congrArg (·.2) (List.inj_on_of_nodup_map hnames hv hw rfl)
  ext w
  refine (KeyMap.get?_ofList_eq_some_iff fun k v w hv hw => ?_).trans ((hentry name w).trans ?_)
  · exact Option.some.inj (hinj ((hentry k v).1 hv) ((hentry k w).1 hw))
  · constructor
    · exact fun hw => hinj hmem hw
    · rintro rfl
      exact hmem

/-- What is written by `write` is read by `decode`. -/
def Undoes (decode : Decoder α) (write : α → Json) : Prop := ∀ x, decode (write x) = .ok x

/-! ## Lists -/

theorem decodeItems_map (decode : Decoder α) (write : α → Json) (h : ∀ v, decode (write v) = .ok v)
    (values : List α) : decodeItems decode (values.map write) = .ok values := by
  induction values with
  | nil => rfl
  | cons v rest ih =>
    rw [List.map_cons, decodeItems, h, ih]
    rfl

theorem Undoes.list {decode : Decoder α} {write : α → Json} (h : Undoes decode write) :
    Undoes (decodeList decode) fun values => .array (values.map write) :=
  decodeItems_map decode write h

theorem decodeStrings_ofStrings (texts : List String) : decodeStrings (ofStrings texts) = .ok texts :=
  decodeItems_map decodeString .string (fun _ => rfl) texts

/-! ## Records -/

/-- Two steps succeed if each of them does. -/
theorem bind_eq_ok_iff {ε α β : Type} {x : Except ε α} {f : α → Except ε β} {b : β} :
    (x >>= f) = .ok b ↔ ∃ a, x = .ok a ∧ f a = .ok b := by
  cases x <;> simp [bind, Except.bind]

/-- What is written for a field, if anything, is read as `x`. -/
def Field.Reads (f : Field α) (value? : Option Json) (x : α) : Prop :=
  match value? with
  | some v => f.decode v = .ok x
  | none => f.absent = some x

theorem reads_required (name : String) {decode : Decoder α} {v : Json} {x : α} (h : decode v = .ok x) :
    (Field.required name decode).Reads (some v) x := h

theorem decodeOption_of_not_null {decode : Decoder α} {v : Json} {x : α} (hnull : v.isNull = false)
    (h : decode v = .ok x) : decodeOption decode v = .ok (some x) := by
  cases v with
  | null => cases hnull
  | _ => exact congrArg (Except.map some) h

theorem reads_optional (name : String) {decode : Decoder α} {write : α → Json} {x? : Option α}
    (hnull : ∀ x, (write x).isNull = false) (h : Undoes decode write) :
    (Field.optional name decode).Reads (x?.map write) x? := by
  cases x? with
  | none => rfl
  | some x => exact decodeOption_of_not_null (hnull x) (h x)

/-- A field of a record, what is written for it, and the value that this is read as. -/
structure WrittenField where
  {α : Type}
  field : Field α
  value? : Option Json
  value : α
  reads : field.Reads value? value

/-- What is written for the fields, by name. -/
def written (fields : List WrittenField) : List (String × Option Json) :=
  fields.map fun f => (f.field.name, f.value?)

/-- The members of an object that is written with these fields. -/
def members (fields : List WrittenField) : KeyMap Json :=
  .ofList ((written fields).filterMap fun f => f.2.map (f.1, ·))

section

variable {fields : List WrittenField} {f f' : WrittenField}

theorem eq_of_name_eq (hnames : (fields.map (·.field.name)).Nodup) (hf : f ∈ fields) (hf' : f' ∈ fields)
    (h : f.field.name = f'.field.name) : f = f' :=
  List.inj_on_of_nodup_map hnames hf hf' h

theorem get?_members_eq_some_iff (hnames : (fields.map (·.field.name)).Nodup) {name : String} {v : Json} :
    (members fields).get? name = some v ↔ ∃ f ∈ fields, f.field.name = name ∧ f.value? = some v := by
  have hentry : ∀ k w, (k, w) ∈ (written fields).filterMap (fun f => f.2.map (f.1, ·)) ↔
      ∃ f ∈ fields, f.field.name = k ∧ f.value? = some w := by
    intro k w
    simp only [written, List.filterMap_map, List.mem_filterMap, Function.comp_apply, Option.map_eq_some_iff,
      Prod.mk.injEq]
    constructor
    · rintro ⟨f, hf, _, hv, rfl, rfl⟩
      exact ⟨f, hf, rfl, hv⟩
    · rintro ⟨f, hf, rfl, hv⟩
      exact ⟨f, hf, w, hv, rfl, rfl⟩
  -- No two fields have one name, so that no entry hides another.
  rw [members, KeyMap.get?_ofList_eq_some_iff fun k v w hkv hkw => ?_, hentry]
  obtain ⟨f, hf, rfl, hv⟩ := (hentry _ _).1 hkv
  obtain ⟨f', hf', hname, hw⟩ := (hentry _ _).1 hkw
  rw [eq_of_name_eq hnames hf' hf hname, hv] at hw
  exact Option.some.inj hw

theorem get?_members (hnames : (fields.map (·.field.name)).Nodup) (hf : f ∈ fields) :
    (members fields).get? f.field.name = f.value? := by
  ext v
  rw [get?_members_eq_some_iff hnames]
  constructor
  · rintro ⟨f', hf', hname, hv⟩
    rwa [← eq_of_name_eq hnames hf' hf hname]
  · intro hv
    exact ⟨f, hf, rfl, hv⟩

end

namespace RecordShape

variable {shape : RecordShape} {fields : List WrittenField}

theorem lookup_of_mem_check (hnames : (fields.map (·.field.name)).Nodup) {f : WrittenField} (hf : f ∈ fields) :
    (fields.map fun f => f.field.check).lookup f.field.name = some f.field.check.2 := by
  induction fields with
  | nil => cases hf
  | cons head rest ih =>
    rw [List.map_cons, List.nodup_cons] at hnames
    rw [List.map_cons, List.lookup_cons]
    rcases List.mem_cons.1 hf with rfl | hf
    · simp [Field.check]
    · have hne : f.field.name ≠ head.field.name := fun h =>
        hnames.1 (h ▸ List.mem_map_of_mem hf)
      have hcheck : head.field.check.1 = head.field.name := rfl
      rw [hcheck, beq_false_of_ne hne]
      exact ih hnames.2 hf

theorem names_eq (hshape : shape.fields = fields.map fun f => f.field.check) :
    shape.names = fields.map (·.field.name) := by
  rw [names, hshape, List.map_map]
  rfl

/-- A field that is read has no problem. -/
theorem problem?_of_ok {f : Field α} (hlookup : shape.fields.lookup f.name = some f.check.2) {v : Json} {x : α}
    (h : f.decode v = .ok x) : shape.problem? f.name v = none := by
  unfold problem?
  rw [hlookup]
  simp [Field.check, h, Except.map]

theorem problem?_of_error {f : Field α} (hlookup : shape.fields.lookup f.name = some f.check.2) {v : Json}
    {e : DecodeError} (h : f.decode v = .error e) : shape.problem? f.name v = some e := by
  unfold problem?
  rw [hlookup]
  simp [Field.check, h, Except.map]

theorem problem?_of_reads (hshape : shape.fields = fields.map fun f => f.field.check) (hnames : shape.names.Nodup)
    {f : WrittenField} (hf : f ∈ fields) {v : Json} (hv : f.value? = some v) :
    shape.problem? f.field.name v = none := by
  have hread := f.reads
  rw [hv] at hread
  have hdecode : f.field.decode v = .ok f.value := hread
  rw [names_eq hshape] at hnames
  have hlookup : shape.fields.lookup f.field.name = some f.field.check.2 := by
    rw [hshape, lookup_of_mem_check hnames hf]
  exact problem?_of_ok hlookup hdecode

theorem lookup_of_other {name : String} (hname : name ∉ shape.names) : shape.fields.lookup name = none := by
  rw [List.lookup_eq_none_iff]
  intro e he
  rw [bne_iff_ne]
  rintro rfl
  exact hname (List.mem_map_of_mem he)

/-- A field that the record does not have is none either, if there may be others. -/
theorem problem?_of_other (hopen : shape.closed = false) {name : String} (hname : name ∉ shape.names) (v : Json) :
    shape.problem? name v = none := by
  simp [problem?, lookup_of_other hname, hopen]

/-- What is read as a field is what was written for it, or what it is when nothing was. -/
theorem field_eq_ok {f : Field α} {source : RecordSource} {x : α} (h : shape.field source f = .ok x) :
    (∃ v, f.decode v = .ok x) ∨ f.absent = some x ∨ f.cutOff = some x := by
  unfold field at h
  grind

/-- A field of an object is read as what the object has for it. -/
theorem field_eq_ok_iff {f : Field α} {m : KeyMap Json} {x : α} :
    shape.field (.members m) f = .ok x ↔ f.Reads (m.get? f.name) x := by
  cases hv : m.get? f.name with
  | some v => simp only [field, hv, Field.Reads]
  | none => cases habsent : f.absent <;> simp [field, hv, habsent, Field.Reads]

/-- Every field is read as the value it was written for. -/
theorem field_members (hnames : (fields.map (·.field.name)).Nodup) {f : WrittenField} (hf : f ∈ fields) :
    shape.field (.members (members fields)) f.field = .ok f.value := by
  rw [field_eq_ok_iff, get?_members hnames hf]
  exact f.reads

/-- A record that may have other fields is read back from an object in which some are written. -/
theorem exists_source_among (shape : RecordShape) (fields others : List WrittenField)
    (hopen : others ≠ [] → shape.closed = false) (hshape : shape.fields = fields.map fun f => f.field.check)
    (hnames : (others.map (·.field.name) ++ shape.names).Nodup) (reading : Reading) :
    ∃ source, shape.source (.ofFields (written (others ++ fields))) = .ok source ∧
      (∀ f ∈ fields, shape.field source f.field = .ok f.value) ∧ shape.checkEnd reading source = .ok () := by
  have hall : ((others ++ fields).map (·.field.name)).Nodup := by
    rwa [List.map_append, ← names_eq hshape]
  rw [List.nodup_append'] at hnames
  have hnone : ∀ e ∈ (members (others ++ fields)).toList, shape.problem? e.1 e.2 = none := by
    intro e he
    obtain ⟨f, hf, hname, hv⟩ := (get?_members_eq_some_iff hall).1 (KeyMap.mem_toList.1 he)
    rw [← hname]
    rcases List.mem_append.1 hf with hf | hf
    · exact problem?_of_other (hopen (List.ne_nil_of_mem hf)) (hnames.2.2 (List.mem_map_of_mem hf)) e.2
    · exact problem?_of_reads hshape hnames.2.1 hf hv
  have hfirst : shape.firstProblem? (members (others ++ fields)) = none := List.findSome?_eq_none_iff.2 hnone
  refine ⟨.members (members (others ++ fields)), ?_, fun f hf => ?_, rfl⟩
  · unfold members at hfirst ⊢
    simp only [Json.ofFields, source, hfirst]
  · exact field_members hall (List.mem_append_right others hf)

/-- A record is read back from an object in which its fields are written. -/
theorem exists_source (shape : RecordShape) (fields : List WrittenField)
    (hshape : shape.fields = fields.map fun f => f.field.check) (hnames : shape.names.Nodup) (reading : Reading) :
    ∃ source, shape.source (.ofFields (written fields)) = .ok source ∧
      (∀ f ∈ fields, shape.field source f.field = .ok f.value) ∧ shape.checkEnd reading source = .ok () :=
  exists_source_among shape fields [] (fun h => absurd rfl h) hshape hnames reading

end RecordShape
end Json
end WalletSession
