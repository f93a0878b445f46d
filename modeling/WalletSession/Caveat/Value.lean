import WalletSession.Scope.Negotiation

set_option autoImplicit false

/-! # Caveat values

What a permission grants is kept as the value of its caveat: required and optional scopes, negotiated before,
and the properties of the session. -/

namespace WalletSession

/-- The scopes that a permission grants, and the properties of its session. -/
structure CaveatValue extends ScopeSides ScopeMap where
  sessionProperties : KeyMap Json := .empty

namespace CaveatValue

/-- The value that grants nothing. -/
def empty : CaveatValue where
  required := .empty
  optional := .empty

/-! ## As JSON -/

/-- The scopes that are required. -/
def requiredScopesField : Json.Field ScopeMap := .required "requiredScopes" ScopeMap.decode
/-- The scopes that are optional. -/
def optionalScopesField : Json.Field ScopeMap := .required "optionalScopes" ScopeMap.decode
/-- The properties of the session. -/
def sessionPropertiesField : Json.Field (KeyMap Json) :=
  .withDefault "sessionProperties" (Json.decodeMap Json.decodeAny) .empty

/-- The shape of a caveat value. -/
def shape : Json.RecordShape where
  type := "Caip25CaveatValue"
  fields := [requiredScopesField.check, optionalScopesField.check, sessionPropertiesField.check]
  closed := false

/-- A caveat value from its record. -/
def decode : Json.Decoder CaveatValue := fun v => do
  let source ← shape.source v
  let required ← shape.field source requiredScopesField
  let optional ← shape.field source optionalScopesField
  let sessionProperties ← shape.field source sessionPropertiesField
  shape.checkEnd .inPlace source
  return { required, optional, sessionProperties }

/-- The record of a caveat value. -/
def toJson (v : CaveatValue) : Json :=
  .object [("requiredScopes", v.required.toJson), ("optionalScopes", v.optional.toJson),
    ("sessionProperties", .ofMap v.sessionProperties)]

/-! ## Scopes -/

/-- The required scopes, then the optional ones. -/
def scopes (v : CaveatValue) : List (String × ScopeObject) := v.required.toList ++ v.optional.toList

/-- Whether a scope is granted. -/
def contains (v : CaveatValue) (scope : String) : Bool :=
  v.required.contains scope || v.optional.contains scope

theorem contains_iff {v : CaveatValue} {scope : String} :
    v.contains scope = true ↔ ∃ o, (scope, o) ∈ v.scopes := by
  simp [contains, scopes, KeyMap.contains_iff_exists, KeyMap.mem_toList, exists_or]

/-- What is granted on both sides together. -/
def session (v : CaveatValue) : ScopeMap := v.required.merge v.optional

/-- Change the objects on both sides. -/
def mapScopes (f : String → ScopeObject → ScopeObject) (v : CaveatValue) : CaveatValue :=
  { v with required := v.required.map f, optional := v.optional.map f }

/-- Keep the scopes on both sides whose names satisfy `p`. -/
def filterScopes (p : String → Bool) (v : CaveatValue) : CaveatValue :=
  { v with
    required := v.required.filter fun name _ => p name
    optional := v.optional.filter fun name _ => p name }

/-- What two values grant together; of a property of both, the one of `b` is kept. -/
def merge (a b : CaveatValue) : CaveatValue where
  required := a.required.merge b.required
  optional := a.optional.merge b.optional
  sessionProperties := a.sessionProperties.override b.sessionProperties

end CaveatValue
end WalletSession
