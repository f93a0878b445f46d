import WalletSession.ScopeName
import WalletSession.Text.Quoted

set_option autoImplicit false

/-! # Network clients

A subscription needs a network client for the chain of its scope. The registry of clients is asked for the
client of a chain, then for the client itself, and then for the client's feed of notifications, which is a new
one unless the registry hands out a feed that it made before. -/

namespace WalletSession

/-- What the registry answers. -/
structure Registry where
  /-- The client that serves a chain, given in hexadecimal. -/
  clientOf : String → Option String
  /-- Whether a client is there. -/
  isAvailable : String → Bool
  /-- The feed made before that a client is given, in place of a new one. -/
  feedOf : String → Option Nat := fun _ => none

/-- What is asked of the registry and of the feeds; feeds are numbered as they are created. -/
inductive RegistryCall where
  | find (chain : String)
  | get (client : String)
  | create (client : String) (feed : Nat)
  | destroy (client : String) (feed : Nat)
deriving DecidableEq, Repr

/-- Why a subscription could not be made or ended. -/
inductive SubscriptionError where
  | unsupportedScope (scope : String)
  | networkClientNotFound (scope chain : String)
  | networkClientUnavailable (client : String)
  | destroy (scope reason : String)
deriving DecidableEq, Repr

/-- The reason in words. -/
def SubscriptionError.message : SubscriptionError → String
  | .unsupportedScope scope => "scope " ++ Text.quoted scope ++ " is not an eip155 chain id"
  | .networkClientNotFound scope chain =>
    "no network client for chain " ++ chain ++ " of scope " ++ Text.quoted scope
  | .networkClientUnavailable client => "network client " ++ Text.quoted client ++ " is unavailable"
  | .destroy scope reason =>
    "failed to destroy subscriptions of scope " ++ Text.quoted scope ++ ": " ++ reason

/-- The client for a scope, or why there is none, and what was asked of the registry. -/
def Registry.resolve (registry : Registry) (scope : String) :
    Except SubscriptionError String × List RegistryCall :=
  match (ScopeName.parse scope).eip155? with
  | none => (.error (.unsupportedScope scope), [])
  | some n =>
    let chain := Eip155.hex n
    match registry.clientOf chain with
    | none => (.error (.networkClientNotFound scope chain), [.find chain])
    | some client =>
      if registry.isAvailable client then (.ok client, [.find chain, .get client])
      else (.error (.networkClientUnavailable client), [.find chain, .get client])

end WalletSession
