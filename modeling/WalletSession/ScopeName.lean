import WalletSession.Eip155

set_option autoImplicit false

/-! # Scope names

A scope is named by a namespace, which stands for all its chains, or by a chain id. -/

namespace WalletSession

/-- What a scope name denotes. -/
inductive ScopeName where
  /-- A namespace on its own. -/
  | bare (ns : String)
  | chain (id : ChainId)
  | unrecognized
deriving DecidableEq, Repr

namespace ScopeName

/-- What a text denotes as a scope name. -/
def parse (s : String) : ScopeName :=
  if isNamespace s then .bare s
  else
    match ChainId.parse? s with
    | some id => .chain id
    | none => .unrecognized

/-- The namespace. -/
def ns? : ScopeName → Option String
  | .bare ns => some ns
  | .chain id => some id.ns
  | .unrecognized => none

/-- The reference of a chain. -/
def reference? : ScopeName → Option String
  | .chain id => some id.reference
  | _ => none

/-- Whether it is a namespace on its own. -/
def isBare : ScopeName → Bool
  | .bare _ => true
  | _ => false

/-- Whether it is a chain. -/
def isChain : ScopeName → Bool
  | .chain _ => true
  | _ => false

/-- The number of an eip155 chain. -/
def eip155? : ScopeName → Option ChainNumber
  | .chain id => id.eip155?
  | _ => none

end ScopeName

/-- The namespaces that a wallet knows. -/
inductive KnownNamespace where
  | eip155
  | wallet
  | bip122
  | solana
deriving DecidableEq, Repr

namespace KnownNamespace

/-- The name of a namespace. -/
def text : KnownNamespace → String
  | .eip155 => Eip155.namespaceName
  | .wallet => "wallet"
  | .bip122 => "bip122"
  | .solana => "solana"

/-- The namespace of this name. -/
def ofText? (s : String) : Option KnownNamespace :=
  [eip155, wallet, bip122, solana].find? fun k => k.text == s

end KnownNamespace

/-- The known namespace of a scope name. -/
def ScopeName.known? (name : ScopeName) : Option KnownNamespace := name.ns?.bind KnownNamespace.ofText?

end WalletSession
