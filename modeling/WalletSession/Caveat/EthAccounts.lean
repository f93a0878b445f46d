import WalletSession.AccountId
import WalletSession.Address
import WalletSession.Caveat.Value

set_option autoImplicit false

/-! # Ethereum accounts of a caveat value

A caveat value seen as a list of Ethereum accounts: those listed under the scopes of eip155 chains and under
`wallet:eip155`. -/

namespace WalletSession

/-- The scope of wallet methods and accounts that belong to no single chain. -/
def walletEip155Scope : String := "wallet:eip155"

/-- Whether Ethereum accounts are granted under a scope name. -/
def isEthScope (name : String) : Bool :=
  name == walletEip155Scope || (ScopeName.parse name).eip155?.isSome

/-- The address of an account id. -/
def ethAddress? (account : String) : Option Address :=
  (AccountId.parse? account).bind fun a => Address.parse? a.address

/-- The account ids of addresses under a scope. -/
def accountIds (scope : String) (addresses : List Address) : List String :=
  addresses.map fun a => scope ++ ":" ++ a.text

namespace CaveatValue

/-- The Ethereum accounts that are granted, each once, in the order they are first listed. -/
def ethAccounts (v : CaveatValue) : List Address :=
  ((v.scopes.filter fun e => isEthScope e.1).flatMap fun e => e.2.accounts.filterMap ethAddress?).eraseDups

/-- Replace the Ethereum accounts under every scope that has them. -/
def withEthAccounts (addresses : List Address) (v : CaveatValue) : CaveatValue :=
  v.mapScopes fun name o => if isEthScope name then { o with accounts := accountIds name addresses } else o

/-- Take an Ethereum account out of every scope. -/
def withoutEthAccount (address : Address) (v : CaveatValue) : CaveatValue :=
  v.mapScopes fun name o =>
    if isEthScope name then { o with accounts := o.accounts.filter (ethAddress? · != some address) } else o

end CaveatValue
end WalletSession
