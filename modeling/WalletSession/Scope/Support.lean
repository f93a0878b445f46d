import WalletSession.Address
import WalletSession.AccountId
import WalletSession.Rpc.ErrorCode
import WalletSession.Scope.Object

set_option autoImplicit false

/-! # Supported scopes

Which scope names, methods, notifications and accounts a wallet can serve. Chains of the namespace `eip155`
are decided by the wallet; all else is fixed by the lists here. -/

namespace WalletSession

/-! ## What is known -/

/-- The methods of the scope `wallet`. -/
def walletMethods : List String := ["wallet_registerOnboarding", "wallet_scanQRCode"]

/-- The methods of the scope `wallet:eip155`. -/
def walletEip155Methods : List String := ["wallet_addEthereumChain"]

/-- The methods of eip155 scopes. -/
def eip155Methods : List String := [
  "eth_accounts",
  "eth_blockNumber",
  "eth_call",
  "eth_chainId",
  "eth_coinbase",
  "eth_decrypt",
  "eth_estimateGas",
  "eth_feeHistory",
  "eth_gasPrice",
  "eth_getBalance",
  "eth_getBlockByHash",
  "eth_getBlockByNumber",
  "eth_getBlockReceipts",
  "eth_getBlockTransactionCountByHash",
  "eth_getBlockTransactionCountByNumber",
  "eth_getCode",
  "eth_getEncryptionPublicKey",
  "eth_getFilterChanges",
  "eth_getFilterLogs",
  "eth_getLogs",
  "eth_getProof",
  "eth_getStorageAt",
  "eth_getTransactionByBlockHashAndIndex",
  "eth_getTransactionByBlockNumberAndIndex",
  "eth_getTransactionByHash",
  "eth_getTransactionCount",
  "eth_getTransactionReceipt",
  "eth_getUncleCountByBlockHash",
  "eth_getUncleCountByBlockNumber",
  "eth_maxPriorityFeePerGas",
  "eth_newBlockFilter",
  "eth_newFilter",
  "eth_newPendingTransactionFilter",
  "eth_requestAccounts",
  "eth_sendRawTransaction",
  "eth_sendTransaction",
  "eth_signTypedData_v4",
  "eth_subscribe",
  "eth_syncing",
  "eth_uninstallFilter",
  "eth_unsubscribe",
  "personal_sign",
  "wallet_getCallsStatus",
  "wallet_getCapabilities",
  "wallet_getPermissions",
  "wallet_requestPermissions",
  "wallet_revokePermissions",
  "wallet_sendCalls",
  "wallet_switchEthereumChain",
  "wallet_watchAsset",
  "web3_clientVersion",
  "web3_sha3"]

/-- The notifications of eip155 scopes. -/
def eip155Notifications : List String := ["eth_subscription"]

/-! ## What is supported -/

/-- Whether a wallet that serves the chains of `serves` supports a scope name. -/
def isSupportedScope (serves : ChainNumber → Bool) (name : String) : Bool :=
  let scope := ScopeName.parse name
  match scope.known?, scope.reference? with
  | some .wallet, none => true
  | some .wallet, some reference => reference == Eip155.namespaceName
  | some .eip155, none => true
  | some .eip155, some reference =>
    match Eip155.number? reference with
    | some n => serves n
    | none => false
  | _, _ => false

/-- Whether a method can be called under a scope name. -/
def isSupportedMethod (name method : String) : Bool :=
  let scope := ScopeName.parse name
  match scope.known?, scope.reference? with
  | some .wallet, none => walletMethods.contains method
  | some .wallet, some reference =>
    reference == Eip155.namespaceName && walletEip155Methods.contains method
  | some .eip155, _ => eip155Methods.contains method
  | _, _ => false

/-- Whether a notification can be sent under a scope name. -/
def isSupportedNotification (name notification : String) : Bool :=
  match (ScopeName.parse name).known? with
  | some .eip155 => eip155Notifications.contains notification
  | _ => false

/-- Whether a text is an address with its `0x` in front. -/
def isPrefixedAddress (s : String) : Bool :=
  match s.toList with
  | '0' :: 'x' :: _ => (Address.parse? s).isSome
  | _ => false

/-- Whether a wallet can hold an account. -/
def isSupportedAccount (account : String) : Bool :=
  match AccountId.parse? account with
  | none => false
  | some a =>
    match KnownNamespace.ofText? a.chain.ns with
    | some .eip155 => isPrefixedAddress a.address
    | some .wallet => a.chain.reference == Eip155.namespaceName && isPrefixedAddress a.address
    | _ => false

/-! ## Refusals -/

/-- Why a scope is not supported. -/
inductive Refusal where
  | chain
  | method
  | notification
deriving DecidableEq, Repr

/-- The error code of a refusal. -/
def Refusal.code : Refusal → ErrorCode
  | .chain => .unsupportedChains
  | .method => .unsupportedMethods
  | .notification => .unsupportedNotifications

/-- Why a scope is not supported, if it is not: its name is looked at first, then methods, then
notifications. -/
def ScopeObject.refusal? (serves : ChainNumber → Bool) (name : String) (o : ScopeObject) : Option Refusal :=
  if !isSupportedScope serves name then some .chain
  else if !o.methods.all (isSupportedMethod name) then some .method
  else if !o.notifications.all (isSupportedNotification name) then some .notification
  else none

/-- The refusal of the first scope, in the order of names, that is not supported. -/
def ScopeMap.refusal? (serves : ChainNumber → Bool) (m : ScopeMap) : Option Refusal :=
  m.toList.findSome? fun e => e.2.refusal? serves e.1

end WalletSession
