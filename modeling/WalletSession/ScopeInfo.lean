import WalletSession.ChainName
import WalletSession.Json.Basic
import WalletSession.ScopeName

set_option autoImplicit false

/-! # About a scope name

What there is to say about a scope name: its parts, whether its namespace is known, and which eip155 chain it
names. -/

namespace WalletSession

/-- What is known about a scope name. -/
structure ScopeInfo where
  scope : String
  name : ScopeName
deriving DecidableEq, Repr

namespace ScopeInfo

/-- What is known about a text as a scope name. -/
def ofText (scope : String) : ScopeInfo := ⟨scope, .parse scope⟩

/-- The kind of the name, in a word. -/
def kind (i : ScopeInfo) : String :=
  match i.name with
  | .chain _ => "chainId"
  | .bare _ => "namespace"
  | .unrecognized => "invalid"

/-- The record of what is known. -/
def toJson (i : ScopeInfo) : Json :=
  .ofFields [
    ("scope", some (.string i.scope)),
    ("kind", some (.string i.kind)),
    ("namespace", i.name.ns?.map .string),
    ("reference", i.name.reference?.map .string),
    ("knownNamespace", some (.bool i.name.known?.isSome)),
    ("hexChainId", i.name.eip155?.map fun n => .string (Eip155.hex n)),
    ("chain", i.name.eip155?.map fun n => .string (ChainName.text n))]

end ScopeInfo
end WalletSession
