import WalletSession.Proofs.Json.RoundTrip

set_option autoImplicit false

/-! # Which values are records

A record is written as an object, which has its fields by name, or as an array, which has them by place. In both
cases the value gives some of the fields (`RecordShape.Gives`), and reading a closed record whose fields may be cut
off where they may be left out comes to reading each field from what is given for it, if anything is
(`RecordShape.gives_of_source`, `RecordShape.exists_source_of_gives`, `RecordShape.field_eq_ok_iff_reads`). -/

namespace WalletSession
namespace Json

variable {α : Type}

/-! ## Strings -/

theorem decodeString_eq_ok_iff (v : Json) (s : String) : decodeString v = .ok s ↔ v = .string s := by
  cases v <;> simp [decodeString]

/-- Items of which each has one spelling are read from these spellings. -/
theorem decodeItems_eq_ok_iff {decode : Decoder α} {write : α → Json} (h : ∀ v x, decode v = .ok x ↔ v = write x)
    {items : List Json} {values : List α} : decodeItems decode items = .ok values ↔ items = values.map write := by
  induction items generalizing values with
  | nil => cases values <;> simp [decodeItems]
  | cons item rest ih =>
    simp only [decodeItems, bind_eq_ok_iff, h, ih]
    cases values <;> simp [pure, Except.pure]

theorem decodeStrings_eq_ok_iff {v : Json} {texts : List String} :
    decodeStrings v = .ok texts ↔ v = ofStrings texts := by
  cases v <;> simp [decodeStrings, decodeList, ofStrings, decodeItems_eq_ok_iff decodeString_eq_ok_iff]

theorem decodeOption_eq_ok_iff {decode : Decoder α} {v : Json} {x? : Option α} :
    decodeOption decode v = .ok x? ↔ v = .null ∧ x? = none ∨ v ≠ .null ∧ ∃ x, decode v = .ok x ∧ x? = some x := by
  cases v with
  | null => simp [decodeOption, eq_comm]
  | _ =>
    simp only [decodeOption, Except.map, reduceCtorEq, false_and, false_or, ne_eq, not_false_eq_true, true_and]
    cases decode _ <;> simp [eq_comm]

/-! ## Fields that are lists of strings -/

namespace Field

variable {name : String} {v? : Option Json}

theorem reads_required_strings_iff {texts : List String} :
    (required name decodeStrings).Reads v? texts ↔ v? = some (ofStrings texts) := by
  cases v? <;> simp [Reads, required, decodeStrings_eq_ok_iff]

theorem exists_reads_withDefault_strings_iff {initial : List String} :
    (∃ texts, (withDefault name decodeStrings initial).Reads v? texts) ↔
      v? = none ∨ ∃ texts, v? = some (ofStrings texts) := by
  cases v? <;> simp [Reads, withDefault, decodeStrings_eq_ok_iff]

theorem reads_optional_strings_iff {texts? : Option (List String)} :
    (optional name decodeStrings).Reads v? texts? ↔
      (v? = none ∨ v? = some .null) ∧ texts? = none ∨ ∃ texts, v? = some (ofStrings texts) ∧ texts? = some texts := by
  cases v? with
  | none => simp [Reads, optional, withDefault, eq_comm]
  | some v =>
    have hnull (texts : List String) : ofStrings texts ≠ .null := Json.noConfusion
    simp only [Reads, optional, withDefault, decodeOption_eq_ok_iff, decodeStrings_eq_ok_iff, reduceCtorEq, false_or,
      Option.some.injEq]
    constructor
    · rintro (h | ⟨-, h⟩)
      · exact Or.inl h
      · exact Or.inr h
    · rintro (h | ⟨texts, rfl, h⟩)
      · exact Or.inl h
      · exact Or.inr ⟨hnull texts, texts, rfl, h⟩

theorem exists_reads_optional_strings_iff :
    (∃ texts?, (optional name decodeStrings).Reads v? texts?) ↔
      v? = none ∨ v? = some .null ∨ ∃ texts, v? = some (ofStrings texts) := by
  simp only [reads_optional_strings_iff]
  constructor
  · rintro ⟨_, ⟨h | h, -⟩ | ⟨texts, h, -⟩⟩
    · exact Or.inl h
    · exact Or.inr (Or.inl h)
    · exact Or.inr (Or.inr ⟨texts, h⟩)
  · rintro (h | h | ⟨texts, h⟩)
    · exact ⟨none, Or.inl ⟨Or.inl h, rfl⟩⟩
    · exact ⟨none, Or.inl ⟨Or.inr h, rfl⟩⟩
    · exact ⟨some texts, Or.inr ⟨texts, h, rfl⟩⟩

end Field

/-! ## Fields by name or by place -/

namespace RecordShape

variable {shape : RecordShape} {source : RecordSource} {reading : Reading} {v : Json}

/-- A value that is written as a record, with no field that the record does not have, and what it gives for
the fields. -/
inductive Gives (shape : RecordShape) : Json → (String → Option Json) → Prop where
  | members {fields : List (String × Json)} (known : ∀ e ∈ fields, e.1 ∈ shape.names) :
      Gives shape (.object fields) (KeyMap.ofList fields).get?
  | items {items : List Json} (few : items.length ≤ shape.fields.length) :
      Gives shape (.array items) fun name => items[shape.names.idxOf name]?

/-- What a source gives for the fields. -/
def given (shape : RecordShape) : RecordSource → String → Option Json
  | .members members => members.get?
  | .items items => fun name => items[shape.names.idxOf name]?

theorem mem_names_of_problem? (hclosed : shape.closed = true) {name : String}
    (h : shape.problem? name v = none) : name ∈ shape.names := by
  by_contra hother
  simp [problem?, lookup_of_other hother, hclosed] at h

/-- What a closed record is read from has no other fields. -/
theorem gives_of_source (hclosed : shape.closed = true) (h : shape.source v = .ok source)
    (hend : shape.checkEnd reading source = .ok ()) : shape.Gives v (shape.given source) := by
  cases v with
  | object fields =>
    simp only [RecordShape.source] at h
    split at h
    · cases h
    · next hnone =>
      cases h
      refine .members fun e he => ?_
      obtain ⟨w, hw⟩ := KeyMap.exists_get?_ofList he
      exact mem_names_of_problem? hclosed (List.findSome?_eq_none_iff.1 hnone (e.1, w) (KeyMap.mem_toList.2 hw))
  | array items =>
    cases h
    refine .items ?_
    by_contra hmany
    simp [checkEnd, hmany] at hend
  | _ => cases h

/-- A record is read from what gives its fields. -/
theorem exists_source_of_gives {given : String → Option Json} (hgives : shape.Gives v given)
    (fields : List WrittenField) (hshape : shape.fields = fields.map fun f => f.field.check)
    (hnames : shape.names.Nodup) (hvalues : ∀ f ∈ fields, given f.field.name = f.value?) (reading : Reading) :
    ∃ source, shape.source v = .ok source ∧ shape.given source = given ∧ shape.checkEnd reading source = .ok () := by
  cases hgives with
  | @members members known =>
    have hnone : shape.firstProblem? (KeyMap.ofList members) = none := by
      refine List.findSome?_eq_none_iff.2 fun e he => ?_
      rw [KeyMap.mem_toList] at he
      have hname : e.1 ∈ fields.map (·.field.name) := names_eq hshape ▸ known e (KeyMap.mem_of_get?_ofList he)
      obtain ⟨f, hf, hname⟩ := List.mem_map.1 hname
      rw [← hname] at he ⊢
      exact problem?_of_reads hshape hnames hf ((hvalues f hf).symm.trans he)
    exact ⟨.members (KeyMap.ofList members), by simp only [source, hnone], rfl, rfl⟩
  | @items items few => exact ⟨.items items, rfl, rfl, by simp [checkEnd, few]⟩

/-- A field is read from what is given for it. -/
theorem field_eq_ok_iff_reads {f : Field α} (hcut : f.cutOff = f.absent) {x : α} :
    shape.field source f = .ok x ↔ f.Reads (shape.given source f.name) x := by
  cases source with
  | members members => exact field_eq_ok_iff
  | items items =>
    cases hv : items[shape.names.idxOf f.name]? with
    | some v => simp only [field, given, hv, Field.Reads]
    | none => cases habsent : f.absent <;> simp [field, given, hv, hcut, habsent, Field.Reads]

end RecordShape
end Json
end WalletSession
