import WalletSession.Caveat.Value
import WalletSession.Permission.Basic

set_option autoImplicit false

/-! # The session permission

The permission that stands for a session is an endowment with a single caveat, whose value holds required and
optional scopes as negotiation leaves them: negotiating them again must change nothing. -/

namespace WalletSession
namespace SessionPermission

/-- The capability of the permission. -/
def targetName : String := "endowment:caip25"

/-- The type of its caveat. -/
def caveatType : String := "authorizedScopes"

/-- The kind of the capability. -/
def permissionType : PermissionType := .endowment

/-- The caveats it may have. -/
def allowedCaveats : List String := [caveatType]

/-- Why a permission does not stand for a session. -/
inductive Problem where
  | invalidCaveats
  | invalidCaveatValue
  | nonNormalizedCaveatValue
deriving DecidableEq, Repr

/-- The problem in words. -/
def Problem.message (p : Problem) : String :=
  let subject := " caveat of type \"" ++ caveatType ++ "\"."
  targetName ++ " error: " ++ match p with
    | .invalidCaveats => "Invalid caveats. There must be a single" ++ subject
    | .invalidCaveatValue => "Received invalid value for" ++ subject
    | .nonNormalizedCaveatValue => "Received non-normalized value for" ++ subject

/-- The declarations in a caveat value, if both sides are there. -/
def declared? (value : Json) : Option (ScopeSides RawScopes) := do
  let required ← value.field? "requiredScopes"
  let optional ← value.field? "optionalScopes"
  return ⟨← required.members?, ← optional.members?⟩

/-- Whether all declarations are scope objects, and exactly those that negotiation leaves. -/
def isNormalized (raw : RawScopes) (negotiated : ScopeMap) : Bool :=
  match raw.traverse ScopeObject.decode with
  | .ok scopes => scopes = negotiated
  | .error _ => false

/-- The problem with a permission, if there is one. -/
def check (p : Permission) : Except Problem Unit :=
  match p.caveats with
  | some [caveat] =>
    if caveat.type = caveatType then
      match declared? caveat.value with
      | none => .error .invalidCaveatValue
      | some raw =>
        let negotiated := raw.negotiate
        if isNormalized raw.required negotiated.required && isNormalized raw.optional negotiated.optional
        then .ok ()
        else .error .nonNormalizedCaveatValue
    else .error .invalidCaveats
  | _ => .error .invalidCaveats

end SessionPermission
end WalletSession
