import WalletSession.Json.Decode
import WalletSession.ScopeName

set_option autoImplicit false

/-! # Scope objects

A scope object says what is asked for, or granted, under one scope name: methods, notifications and accounts,
documents and endpoints of the chain's own RPC, and, under a namespace, the chains it is meant for. -/

namespace WalletSession

/-- What is asked for or granted under a scope name. -/
structure ScopeObject where
  /-- The chains that a declaration under a namespace is meant for. -/
  scopes : Option (List String) := none
  methods : List String := []
  notifications : List String := []
  accounts : List String := []
  rpcDocuments : Option (List String) := none
  rpcEndpoints : Option (List String) := none
deriving DecidableEq

/-- Scope objects by scope name. -/
abbrev ScopeMap := KeyMap ScopeObject

/-- Declarations as they are received, by scope name. -/
abbrev RawScopes := KeyMap Json

namespace ScopeObject

/-- The chains that the declaration names, if it names any. -/
def nested (o : ScopeObject) : List String := o.scopes.getD []

/-! ## As JSON -/

/-- The chains of a declaration. -/
def scopesField : Json.Field (Option (List String)) := .optional "scopes" Json.decodeStrings
/-- The methods. -/
def methodsField : Json.Field (List String) := .required "methods" Json.decodeStrings
/-- The notifications. -/
def notificationsField : Json.Field (List String) := .required "notifications" Json.decodeStrings
/-- The accounts. -/
def accountsField : Json.Field (List String) := .withDefault "accounts" Json.decodeStrings []
/-- The documents of the chain's RPC. -/
def rpcDocumentsField : Json.Field (Option (List String)) := .optional "rpcDocuments" Json.decodeStrings
/-- The endpoints of the chain's RPC. -/
def rpcEndpointsField : Json.Field (Option (List String)) := .optional "rpcEndpoints" Json.decodeStrings

/-- The shape of a scope object. -/
def shape : Json.RecordShape where
  type := "ScopeObject"
  fields := [scopesField.check, methodsField.check, notificationsField.check, accountsField.check,
    rpcDocumentsField.check, rpcEndpointsField.check]
  closed := true

/-- A scope object from its record. -/
def decode : Json.Decoder ScopeObject := fun v => do
  let source ← shape.source v
  let scopes ← shape.field source scopesField
  let methods ← shape.field source methodsField
  let notifications ← shape.field source notificationsField
  let accounts ← shape.field source accountsField
  let rpcDocuments ← shape.field source rpcDocumentsField
  let rpcEndpoints ← shape.field source rpcEndpointsField
  shape.checkEnd .inPlace source
  return { scopes, methods, notifications, accounts, rpcDocuments, rpcEndpoints }

/-- The scope object that a value stands for, if it stands for one. -/
def ofJson? (v : Json) : Option ScopeObject := (decode v).toOption

/-- The record of a scope object; what it does not say is left out. -/
def toJson (o : ScopeObject) : Json :=
  .ofFields [
    ("scopes", o.scopes.map Json.ofStrings),
    ("methods", some (Json.ofStrings o.methods)),
    ("notifications", some (Json.ofStrings o.notifications)),
    ("accounts", some (Json.ofStrings o.accounts)),
    ("rpcDocuments", o.rpcDocuments.map Json.ofStrings),
    ("rpcEndpoints", o.rpcEndpoints.map Json.ofStrings)]

end ScopeObject

namespace ScopeMap

/-- A map of scope objects from an object. -/
def decode : Json.Decoder ScopeMap := Json.decodeMap ScopeObject.decode

/-- The object of a map of scope objects. -/
def toJson (m : ScopeMap) : Json := .ofMap (m.map fun _ o => o.toJson)

/-- The declarations that a map of scope objects is written as. -/
def toRaw (m : ScopeMap) : RawScopes := m.map fun _ o => o.toJson

end ScopeMap

namespace RawScopes

/-- Declarations from an object, not looked into. -/
def decode : Json.Decoder RawScopes := Json.decodeMap Json.decodeAny

end RawScopes
end WalletSession
