import WalletSession.Scope.Buckets
import WalletSession.Scope.Negotiation
import WalletSession.Session.ScopedProperties

set_option autoImplicit false

/-! # Session requests

A request for a session (CAIP-25) declares scopes that are required and scopes that are optional, and may attach
properties to the session and to scopes. -/

namespace WalletSession

/-- What a request asks for. -/
structure SessionRequest where
  requiredScopes : Option RawScopes
  optionalScopes : Option RawScopes
  sessionProperties : Option (KeyMap Json)
  scopedProperties : Option (KeyMap Json)

namespace SessionRequest

/-! ## As JSON -/

/-- A map of values that are not looked into. -/
def decodeValues : Json.Decoder (KeyMap Json) := Json.decodeMap Json.decodeAny

/-- The scopes a session cannot do without. -/
def requiredScopesField : Json.Field (Option RawScopes) := .optional "requiredScopes" RawScopes.decode
/-- The scopes a session may get in addition. -/
def optionalScopesField : Json.Field (Option RawScopes) := .optional "optionalScopes" RawScopes.decode
/-- The properties of the session. -/
def sessionPropertiesField : Json.Field (Option (KeyMap Json)) := .optional "sessionProperties" decodeValues
/-- The properties attached to scopes. -/
def scopedPropertiesField : Json.Field (Option (KeyMap Json)) := .optional "scopedProperties" decodeValues

/-- The shape of a request. -/
def shape : Json.RecordShape where
  type := "Caip25Authorization"
  fields := [requiredScopesField.check, optionalScopesField.check, sessionPropertiesField.check,
    scopedPropertiesField.check]
  closed := false

/-- A request from its record. -/
def decode : Json.Decoder SessionRequest := fun v => do
  let source ← shape.source v
  let requiredScopes ← shape.field source requiredScopesField
  let optionalScopes ← shape.field source optionalScopesField
  let sessionProperties ← shape.field source sessionPropertiesField
  let scopedProperties ← shape.field source scopedPropertiesField
  shape.checkEnd .inPlace source
  return { requiredScopes, optionalScopes, sessionProperties, scopedProperties }

/-- The record of a request; what it does not say is left out. -/
def toJson (r : SessionRequest) : Json :=
  .ofFields [
    ("requiredScopes", r.requiredScopes.map Json.ofMap),
    ("optionalScopes", r.optionalScopes.map Json.ofMap),
    ("sessionProperties", r.sessionProperties.map Json.ofMap),
    ("scopedProperties", r.scopedProperties.map Json.ofMap)]

/-! ## Reading -/

/-- The request that a value is, if it declares any scopes, even none on a side. -/
def parse (v : Json) : Except RpcError SessionRequest := do
  let request ← (decode v).mapError fun e => .invalidParams ("Invalid authorization: " ++ e.message)
  if request.requiredScopes.isNone && request.optionalScopes.isNone then
    .error (.invalidParams "Expected either \"requiredScopes\" or \"optionalScopes\" to be present")
  return request

/-- The declarations on both sides. -/
def declared (r : SessionRequest) : ScopeSides RawScopes :=
  ⟨r.requiredScopes.getD .empty, r.optionalScopes.getD .empty⟩

/-- The scopes that the request comes down to. -/
def scopes (r : SessionRequest) : ScopeSides ScopeMap := r.declared.negotiate

/-- The properties that are kept for the scopes that were asked for. -/
def properties (isHttpUrl : String → Bool) (r : SessionRequest) : ScopedProperties :=
  .sanitize isHttpUrl (fun scope => r.declared.required.contains scope || r.declared.optional.contains scope)
    (r.scopedProperties.getD .empty)

end SessionRequest

/-! ## Answering -/

/-- What a wallet makes of a request. -/
structure ProcessedRequest where
  required : ScopeBuckets
  optional : ScopeBuckets
  sessionProperties : KeyMap Json
  scopedProperties : ScopedProperties

namespace ProcessedRequest

/-- What a wallet makes of a request; with `strict`, the first required scope that is not supported is an
error. -/
def ofRequest (isHttpUrl : String → Bool) (support : ChainSupport) (strict : Bool) (v : Json) :
    Except RpcError ProcessedRequest := do
  let request ← SessionRequest.parse v
  let scopes := request.scopes
  if strict then
    match scopes.required.refusal? support.supported with
    | some refusal => .error (.ofCode refusal.code)
    | none => .ok ()
  return {
    required := scopes.required.buckets support
    optional := scopes.optional.buckets support
    sessionProperties := request.sessionProperties.getD .empty
    scopedProperties := request.properties isHttpUrl }

/-- The record of a processed request. -/
def toJson (p : ProcessedRequest) : Json :=
  .object [("requiredScopes", p.required.toJson), ("optionalScopes", p.optional.toJson),
    ("sessionProperties", .ofMap p.sessionProperties), ("scopedProperties", p.scopedProperties.toJson)]

end ProcessedRequest
end WalletSession
