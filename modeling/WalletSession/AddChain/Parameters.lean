import WalletSession.Json.Decode

set_option autoImplicit false

/-! # Parameters for adding a chain

What a `wallet_addEthereumChain` call says about a chain (EIP-3085), as it is written. -/

namespace WalletSession

/-- The currency that a chain's fees are paid in. -/
structure NativeCurrency where
  name : String
  symbol : String
  decimals : UInt8
deriving DecidableEq

namespace NativeCurrency

/-- The name. -/
def nameField : Json.Field String := .required "name" Json.decodeString
/-- The symbol. -/
def symbolField : Json.Field String := .required "symbol" Json.decodeString
/-- The number of decimal places. -/
def decimalsField : Json.Field UInt8 := .required "decimals" Json.decodeByte

/-- The shape of a currency. -/
def shape : Json.RecordShape where
  type := "NativeCurrency"
  fields := [nameField.check, symbolField.check, decimalsField.check]
  closed := true

/-- A currency from its record. -/
def decode : Json.Decoder NativeCurrency := fun v => do
  let source ← shape.source v
  let name ← shape.field source nameField
  let symbol ← shape.field source symbolField
  let decimals ← shape.field source decimalsField
  shape.checkEnd .inPlace source
  return { name, symbol, decimals }

/-- The record of a currency. -/
def toJson (c : NativeCurrency) : Json :=
  .object [("name", .string c.name), ("symbol", .string c.symbol),
    ("decimals", .integer c.decimals.toNat)]

end NativeCurrency

/-- What is said about a chain to add. -/
structure AddChainParameters where
  chainId : String
  chainName : String
  rpcUrls : List String
  nativeCurrency : NativeCurrency
  blockExplorerUrls : Option (List String)
  iconUrls : Option (List String)
deriving DecidableEq

namespace AddChainParameters

/-- The chain's number in hexadecimal. -/
def chainIdField : Json.Field String := .required "chainId" Json.decodeString
/-- The chain's name. -/
def chainNameField : Json.Field String := .required "chainName" Json.decodeString
/-- Where the chain's RPC is served. -/
def rpcUrlsField : Json.Field (List String) := .required "rpcUrls" Json.decodeStrings
/-- The chain's currency. -/
def nativeCurrencyField : Json.Field NativeCurrency := .required "nativeCurrency" NativeCurrency.decode
/-- Where the chain can be looked into. -/
def blockExplorerUrlsField : Json.Field (Option (List String)) :=
  .optional "blockExplorerUrls" Json.decodeStrings
/-- Where the chain's icons are. -/
def iconUrlsField : Json.Field (Option (List String)) := .optional "iconUrls" Json.decodeStrings

/-- The shape of the parameters. -/
def shape : Json.RecordShape where
  type := "AddEthereumChainParameter"
  fields := [chainIdField.check, chainNameField.check, rpcUrlsField.check, nativeCurrencyField.check,
    blockExplorerUrlsField.check, iconUrlsField.check]
  closed := true

/-- The parameters from their record. -/
def decode : Json.Decoder AddChainParameters := fun v => do
  let source ← shape.source v
  let chainId ← shape.field source chainIdField
  let chainName ← shape.field source chainNameField
  let rpcUrls ← shape.field source rpcUrlsField
  let nativeCurrency ← shape.field source nativeCurrencyField
  let blockExplorerUrls ← shape.field source blockExplorerUrlsField
  let iconUrls ← shape.field source iconUrlsField
  shape.checkEnd .inPlace source
  return { chainId, chainName, rpcUrls, nativeCurrency, blockExplorerUrls, iconUrls }

/-- The record of the parameters; lists that are not given are left out. -/
def toJson (p : AddChainParameters) : Json :=
  .ofFields [
    ("chainId", some (.string p.chainId)),
    ("chainName", some (.string p.chainName)),
    ("rpcUrls", some (Json.ofStrings p.rpcUrls)),
    ("nativeCurrency", some p.nativeCurrency.toJson),
    ("blockExplorerUrls", p.blockExplorerUrls.map Json.ofStrings),
    ("iconUrls", p.iconUrls.map Json.ofStrings)]

end AddChainParameters
end WalletSession
