import WalletSession.Scope.Support

set_option autoImplicit false

/-! # Buckets

Scopes sorted by what a wallet can do with them: serve them now, serve them after adding a network, or not at
all. -/

namespace WalletSession

/-- The chains a wallet serves, and those it could serve after adding a network. -/
structure ChainSupport where
  supported : ChainNumber → Bool
  supportable : ChainNumber → Bool

/-- Scopes in three buckets. -/
structure ScopeBuckets where
  supported : ScopeMap
  supportable : ScopeMap
  unsupported : ScopeMap
deriving DecidableEq

namespace ScopeMap

/-- The scopes that a wallet serving the chains of `serves` supports. -/
def supportedBy (serves : ChainNumber → Bool) (m : ScopeMap) : ScopeMap :=
  m.filter fun name o => (o.refusal? serves name).isNone

theorem get?_supportedBy (serves : ChainNumber → Bool) (m : ScopeMap) (name : String) :
    (m.supportedBy serves).get? name = (m.get? name).filter fun o => (o.refusal? serves name).isNone :=
  KeyMap.get?_filter _ m name

/-- The scopes that it does not support. -/
def refusedBy (serves : ChainNumber → Bool) (m : ScopeMap) : ScopeMap :=
  m.filter fun name o => (o.refusal? serves name).isSome

theorem get?_refusedBy (serves : ChainNumber → Bool) (m : ScopeMap) (name : String) :
    (m.refusedBy serves).get? name = (m.get? name).filter fun o => (o.refusal? serves name).isSome :=
  KeyMap.get?_filter _ m name

/-- The scopes sorted into buckets. -/
def buckets (support : ChainSupport) (m : ScopeMap) : ScopeBuckets :=
  let rest := m.refusedBy support.supported
  ⟨m.supportedBy support.supported, rest.supportedBy support.supportable, rest.refusedBy support.supportable⟩

end ScopeMap

/-- The record of the buckets. -/
def ScopeBuckets.toJson (b : ScopeBuckets) : Json :=
  .object [("supported", b.supported.toJson), ("supportable", b.supportable.toJson),
    ("unsupported", b.unsupported.toJson)]

end WalletSession
