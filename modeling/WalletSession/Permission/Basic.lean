import WalletSession.Json.Decode

set_option autoImplicit false

/-! # Permissions

A permission lets an invoker use a capability, restricted by caveats, whose values can be anything. -/

namespace WalletSession

/-- What kind of capability a permission is for. -/
inductive PermissionType where
  | restrictedMethod
  | endowment
deriving DecidableEq, Inhabited, Repr

namespace PermissionType

/-- The name of a type. -/
def text : PermissionType → String
  | .restrictedMethod => "restrictedMethod"
  | .endowment => "endowment"

/-- A type from its name. -/
def decode : Json.Decoder PermissionType :=
  Json.decodeChoice ([.restrictedMethod, .endowment].map fun t => (t.text, t))

/-- A type by its name. -/
def toJson (t : PermissionType) : Json := .string t.text

end PermissionType

/-- A restriction of a permission. -/
structure Caveat where
  type : String
  value : Json

namespace Caveat

/-- The type of a caveat. -/
def typeField : Json.Field String := .required "type" Json.decodeString
/-- The value of a caveat. -/
def valueField : Json.Field Json := .required "value" Json.decodeAny

/-- The shape of a caveat. -/
def shape : Json.RecordShape where
  type := "Caveat"
  fields := [typeField.check, valueField.check]
  closed := false

/-- A caveat from its record. -/
def decode : Json.Decoder Caveat := fun v => do
  let source ← shape.source v
  let type ← shape.field source typeField
  let value ← shape.field source valueField
  shape.checkEnd .inPlace source
  return { type, value }

/-- The record of a caveat. -/
def toJson (c : Caveat) : Json := .object [("type", .string c.type), ("value", c.value)]

end Caveat

/-- A permission as it is stored. -/
structure Permission where
  parentCapability : String
  invoker : String
  caveats : Option (List Caveat)

namespace Permission

/-- The capability. -/
def parentCapabilityField : Json.Field String := .required "parentCapability" Json.decodeString
/-- Who may use it. -/
def invokerField : Json.Field String := .required "invoker" Json.decodeString
/-- How it is restricted. -/
def caveatsField : Json.Field (Option (List Caveat)) := .optional "caveats" (Json.decodeList Caveat.decode)

/-- The shape of a permission. -/
def shape : Json.RecordShape where
  type := "PermissionConstraint"
  fields := [parentCapabilityField.check, invokerField.check, caveatsField.check]
  closed := false

/-- A permission from its record. -/
def decode : Json.Decoder Permission := fun v => do
  let source ← shape.source v
  let parentCapability ← shape.field source parentCapabilityField
  let invoker ← shape.field source invokerField
  let caveats ← shape.field source caveatsField
  shape.checkEnd .inPlace source
  return { parentCapability, invoker, caveats }

/-- The record of a permission. -/
def toJson (p : Permission) : Json :=
  .ofFields [("parentCapability", some (.string p.parentCapability)), ("invoker", some (.string p.invoker)),
    ("caveats", p.caveats.map fun cs => .array (cs.map Caveat.toJson))]

end Permission
end WalletSession
