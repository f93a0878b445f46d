import WalletSession.AddChain.Parameters
import WalletSession.ScopeName
import WalletSession.Text.Blank

set_option autoImplicit false

/-! # Checking parameters for adding a chain

`AddChain.check` takes the parameters for the chain that a scope names, or says what is wrong with them; the
first problem in the order of `AddChain.Problem` counts. What is a URL with the scheme `http` or `https` is left to
whoever runs the check: it is the parameter `isHttpUrl`, which is any predicate on texts. -/

namespace WalletSession
namespace AddChain

/-- The largest chain number that a double can hold together with its signature value (EIP-2294). -/
def maxSafeChainId : Nat := 4503599627370476

/-- Which list a URL belongs to. -/
inductive UrlKind where
  | rpc
  | blockExplorer
  | icon
deriving DecidableEq, Repr

/-- The kind in words. -/
def UrlKind.words : UrlKind → String
  | .rpc => "rpc"
  | .blockExplorer => "block explorer"
  | .icon => "icon"

/-- What can be wrong with a currency. -/
inductive CurrencyProblem where
  | missingName
  | symbolLength
  | decimals
deriving DecidableEq, Repr

/-- The problem in words. -/
def CurrencyProblem.words : CurrencyProblem → String
  | .missingName => "missing name"
  | .symbolLength => "symbol must be 2-6 characters"
  | .decimals => "decimals must be 18"

/-- What can be wrong with parameters for adding a chain. -/
inductive Problem where
  | notAnEip155Chain (scope : String)
  | malformed (reason : Json.DecodeError)
  | invalidChainId (chainId : String)
  | chainIdMismatch (scope chainId : String)
  | missingChainName
  | missingRpcUrls
  | invalidUrl (kind : UrlKind) (url : String)
  | invalidNativeCurrency (problem : CurrencyProblem)

/-- The problem in words. -/
def Problem.message : Problem → String
  | .notAnEip155Chain scope => "scope " ++ Text.quoted scope ++ " is not an eip155 chain id"
  | .malformed reason => "malformed parameters: " ++ reason.message
  | .invalidChainId chainId => "invalid chain id " ++ Text.quoted chainId
  | .chainIdMismatch scope chainId =>
    "chain id " ++ Text.quoted chainId ++ " does not match scope " ++ Text.quoted scope
  | .missingChainName => "missing chain name"
  | .missingRpcUrls => "expected at least one rpc url"
  | .invalidUrl kind url => "invalid " ++ kind.words ++ " url " ++ Text.quoted url
  | .invalidNativeCurrency problem => "invalid native currency: " ++ problem.words

/-- The number of a chain to add: in the one hexadecimal spelling, from one to the largest safe number. -/
def chainNumber? (chainId : String) : Option ChainNumber :=
  (Eip155.ofCanonicalHex? chainId).filter fun n => 1 ≤ n.toNat ∧ n.toNat ≤ maxSafeChainId

/-- The problem with the first URL of a list that is none. -/
def checkUrls (isHttpUrl : String → Bool) (kind : UrlKind) (urls : List String) : Except Problem Unit :=
  match urls.find? (!isHttpUrl ·) with
  | some url => .error (.invalidUrl kind url)
  | none => .ok ()

/-- The problem with a currency. -/
def checkCurrency (c : NativeCurrency) : Except Problem Unit :=
  if Text.isBlankText c.name then .error (.invalidNativeCurrency .missingName)
  else if !(2 ≤ c.symbol.length && c.symbol.length ≤ 6) then .error (.invalidNativeCurrency .symbolLength)
  else if c.decimals ≠ 18 then .error (.invalidNativeCurrency .decimals)
  else .ok ()

/-- The problem with parameters for the chain `number` that `scope` names. -/
def checkParameters (isHttpUrl : String → Bool) (scope : String) (number : ChainNumber) (p : AddChainParameters) :
    Except Problem Unit := do
  match chainNumber? p.chainId with
  | none => .error (.invalidChainId p.chainId)
  | some n => if n = number then .ok () else .error (.chainIdMismatch scope p.chainId)
  if Text.isBlankText p.chainName then .error .missingChainName
  if p.rpcUrls.isEmpty then .error .missingRpcUrls
  checkUrls isHttpUrl .rpc p.rpcUrls
  checkUrls isHttpUrl .blockExplorer (p.blockExplorerUrls.getD [])
  checkUrls isHttpUrl .icon (p.iconUrls.getD [])
  checkCurrency p.nativeCurrency

/-- The parameters that a value gives for adding the chain that `scope` names. -/
def check (isHttpUrl : String → Bool) (scope : String) (value : Json) : Except Problem AddChainParameters :=
  match (ScopeName.parse scope).eip155? with
  | none => .error (.notAnEip155Chain scope)
  | some number => do
    let parameters ← (AddChainParameters.decode value).mapError .malformed
    checkParameters isHttpUrl scope number parameters
    return parameters

end AddChain
end WalletSession
