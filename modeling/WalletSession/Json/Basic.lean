import WalletSession.KeyMap

set_option autoImplicit false

/-! # JSON values

A value keeps the fields of an object in the order they are written; reading an object goes through
`Json.members`, where they are ordered by key and the last of equal keys counts. Whole numbers are kept
apart from those written with a fraction or an exponent. -/

namespace WalletSession

/-- A JSON value. -/
inductive Json where
  | null
  | bool (value : Bool)
  | integer (value : Int)
  | double (value : Float)
  | string (value : String)
  | array (items : List Json)
  | object (fields : List (String × Json))
deriving Inhabited

namespace Json

/-- The object with the entries of a map, in order of the keys. -/
def ofMap (m : KeyMap Json) : Json := .object m.toList

/-- The array of some strings. -/
def ofStrings (texts : List String) : Json := .array (texts.map .string)

/-- The object with these fields, leaving out those without a value. -/
def ofFields (fields : List (String × Option Json)) : Json :=
  .object (fields.filterMap fun f => f.2.map (f.1, ·))

/-- The entries of an object by key. -/
def members? : Json → Option (KeyMap Json)
  | .object fields => some (.ofList fields)
  | _ => none

/-- The field `name` of an object. -/
def field? (value : Json) (name : String) : Option Json :=
  value.members?.bind fun members => members.get? name

/-- Whether a value is `null`. -/
def isNull : Json → Bool
  | .null => true
  | _ => false

end Json
end WalletSession
