import WalletSession.Scope.Buckets
import WalletSession.Settings.ChainSelection

set_option autoImplicit false

/-! # Settings

Which chains a wallet serves, which it could serve after adding a network, and whether repeated subscriptions
are made only once. -/

namespace WalletSession

/-- The settings of a wallet. -/
structure Settings where
  supportedChainIds : ChainSelection := .chains [1, 11155111, 59144]
  supportableChainIds : ChainSelection := .chains [10, 56, 100, 137, 324, 8453, 42161, 43114, 534352]
  dedupeSubscriptions : Bool := true
deriving DecidableEq, Inhabited

namespace Settings

/-- The settings that hold when nothing else is said. -/
def standard : Settings := {}

/-- What the settings say about chains. -/
def support (s : Settings) : ChainSupport := ⟨s.supportedChainIds.contains, s.supportableChainIds.contains⟩

/-- The chains that are served. -/
def supportedField : Json.Field ChainSelection :=
  .withDefault "supported_chain_ids" ChainSelection.decode standard.supportedChainIds
/-- The chains that could be served. -/
def supportableField : Json.Field ChainSelection :=
  .withDefault "supportable_chain_ids" ChainSelection.decode standard.supportableChainIds
/-- Whether subscriptions are made only once. -/
def dedupeField : Json.Field Bool :=
  .withDefault "dedupe_subscriptions" Json.decodeBool standard.dedupeSubscriptions

/-- The shape of settings. -/
def shape : Json.RecordShape where
  type := "MultichainConfig"
  fields := [supportedField.check, supportableField.check, dedupeField.check]
  closed := false

/-- Settings from their record. -/
def decode : Json.Decoder Settings := fun v => do
  let source ← shape.source v
  let supportedChainIds ← shape.field source supportedField
  let supportableChainIds ← shape.field source supportableField
  let dedupeSubscriptions ← shape.field source dedupeField
  shape.checkEnd .inPlace source
  return { supportedChainIds, supportableChainIds, dedupeSubscriptions }

/-- The record of settings. -/
def toJson (s : Settings) : Json :=
  .object [("supported_chain_ids", s.supportedChainIds.toJson),
    ("supportable_chain_ids", s.supportableChainIds.toJson),
    ("dedupe_subscriptions", .bool s.dedupeSubscriptions)]

end Settings
end WalletSession
