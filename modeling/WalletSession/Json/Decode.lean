import WalletSession.Json.DecodeError

set_option autoImplicit false

/-! # Reading typed values

Decoders from JSON values to types: words, lists, maps, names out of a fixed list, and records.

A record may be written as an object or as an array of its fields in order. Of an object the fields are looked
at in the order of their keys and the first problem is reported, then the first field that is missing; of an
array the items are looked at in turn, and items too many are reported last. -/

namespace WalletSession
namespace Json

/-- A way to read a value of a type. -/
abbrev Decoder (α : Type) := Json → Except DecodeError α

/-! ## Simple values -/

/-- A string. -/
def decodeString : Decoder String
  | .string s => .ok s
  | v => .error (.invalidType v.found .string)

/-- A boolean. -/
def decodeBool : Decoder Bool
  | .bool b => .ok b
  | v => .error (.invalidType v.found .boolean)

/-- Nothing. -/
def decodeUnit : Decoder Unit
  | .null => .ok ()
  | v => .error (.invalidType v.found .unit)

/-- Any value. -/
def decodeAny : Decoder Json := .ok

/-- A whole number from 0 to 255. -/
def decodeByte : Decoder UInt8
  | .integer n =>
    if 0 ≤ n ∧ n < 256 then .ok (UInt8.ofNat n.toNat) else .error (.invalidValue (.integer n) .byte)
  | v => .error (.invalidType v.found .byte)

/-- A whole number that fits into 64 bits with a sign. -/
def decodeSignedWord : Decoder Int
  | .integer n =>
    if -0x8000000000000000 ≤ n ∧ n < 0x8000000000000000 then .ok n
    else .error (.invalidValue (.integer n) .signedWord)
  | v => .error (.invalidType v.found .signedWord)

/-- A value that may be `null`. -/
def decodeOption {α : Type} (decode : Decoder α) : Decoder (Option α)
  | .null => .ok none
  | v => (decode v).map some

/-! ## Lists and maps -/

/-- Every item, up to the first problem. -/
def decodeItems {α : Type} (decode : Decoder α) : List Json → Except DecodeError (List α)
  | [] => .ok []
  | item :: rest => do
    let x ← decode item
    let xs ← decodeItems decode rest
    return x :: xs

/-- A list. -/
def decodeList {α : Type} (decode : Decoder α) : Decoder (List α)
  | .array items => decodeItems decode items
  | v => .error (.invalidType v.found .sequence)

/-- A list of strings. -/
def decodeStrings : Decoder (List String) := decodeList decodeString

/-- A map, up to the first problem in the order of the keys. -/
def decodeMap {α : Type} (decode : Decoder α) : Decoder (KeyMap α)
  | .object fields => (KeyMap.ofList fields).traverse decode
  | v => .error (.invalidType v.found .map)

/-! ## Names -/

/-- The value with this name. -/
def named {α : Type} (values : List (String × α)) (name : String) : Except DecodeError α :=
  match values.lookup name with
  | some value => .ok value
  | none => .error (.unknownVariant name (values.map (·.1)))

/-- One of some named values, written as its name, or as an object with the name as its only key. -/
def decodeChoice {α : Type} (values : List (String × α)) : Decoder α
  | .string name => named values name
  | .object fields =>
    match (KeyMap.ofList fields).toList with
    | [(name, content)] => do
      let value ← named values name
      decodeUnit content
      return value
    | _ => .error (.invalidValue .map .singleKey)
  | v => .error (.invalidType v.found .choice)

/-! ## Records -/

/-- A field of a record. -/
structure Field (α : Type) where
  name : String
  decode : Decoder α
  /-- The value of a field that an object leaves out; without it the field is required. -/
  absent : Option α
  /-- The value of a field that an array is too short for; without it the field is required. -/
  cutOff : Option α

/-- A field that has to be given. -/
def Field.required {α : Type} (name : String) (decode : Decoder α) : Field α :=
  ⟨name, decode, none, none⟩

/-- A field with a value of its own when it is not given. -/
def Field.withDefault {α : Type} (name : String) (decode : Decoder α) (value : α) : Field α :=
  ⟨name, decode, some value, some value⟩

/-- A field that may be left out or `null`. -/
def Field.optional {α : Type} (name : String) (decode : Decoder α) : Field (Option α) :=
  .withDefault name (decodeOption decode) none

/-- Whether the value of a field can be read. -/
def Field.check {α : Type} (f : Field α) : String × (Json → Except DecodeError Unit) :=
  (f.name, fun v => (f.decode v).map fun _ => ())

/-- What a record type looks like. -/
structure RecordShape where
  /-- The name of the type in messages. -/
  type : String
  /-- The fields in order, with a check of their values. -/
  fields : List (String × (Json → Except DecodeError Unit))
  /-- Whether an object may have no other fields. -/
  closed : Bool

/-- How a value comes to its decoder. -/
inductive Reading where
  /-- Straight from the JSON value. -/
  | inPlace
  /-- Set aside while other fields were read. -/
  | setAside
deriving DecidableEq

/-- The two ways to write a record. -/
inductive RecordSource where
  | members (members : KeyMap Json)
  | items (items : List Json)

namespace RecordShape

/-- The names of the fields. -/
def names (shape : RecordShape) : List String := shape.fields.map (·.1)

/-- The problem with one field of an object, if there is one. -/
def problem? (shape : RecordShape) (name : String) (value : Json) : Option DecodeError :=
  match shape.fields.lookup name with
  | some check =>
    match check value with
    | .ok () => none
    | .error e => some e
  | none => if shape.closed then some (.unknownField name shape.names) else none

/-- The first problem with the fields of an object, in the order of their keys. -/
def firstProblem? (shape : RecordShape) (members : KeyMap Json) : Option DecodeError :=
  members.toList.findSome? fun e => shape.problem? e.1 e.2

/-- The fields of a value, after a look at all fields of an object. -/
def source (shape : RecordShape) : Json → Except DecodeError RecordSource
  | .object fields =>
    let members := KeyMap.ofList fields
    match shape.firstProblem? members with
    | some e => .error e
    | none => .ok (.members members)
  | .array items => .ok (.items items)
  | v => .error (.invalidType v.found (.record shape.type))

/-- The value of one field. -/
def field {α : Type} (shape : RecordShape) (source : RecordSource) (f : Field α) : Except DecodeError α :=
  match source with
  | .members members =>
    match members.get? f.name with
    | some v => f.decode v
    | none =>
      match f.absent with
      | some value => .ok value
      | none => .error (.missingField f.name)
  | .items items =>
    let index := shape.names.idxOf f.name
    match items[index]? with
    | some v => f.decode v
    | none =>
      match f.cutOff with
      | some value => .ok value
      | none => .error (.invalidLength index (.recordOf shape.type shape.fields.length))

/-- An array may not have more items than the record has fields. -/
def checkEnd (shape : RecordShape) (reading : Reading) : RecordSource → Except DecodeError Unit
  | .members _ => .ok ()
  | .items items =>
    if items.length ≤ shape.fields.length then .ok ()
    else
      .error (.invalidLength items.length (match reading with
        | .inPlace => .fewerElements
        | .setAside => .elements shape.fields.length))

end RecordShape

end Json
end WalletSession
