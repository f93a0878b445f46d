import WalletSession.Caveat.EthAccounts

set_option autoImplicit false

/-! # Permitted chains of a caveat value

A caveat value seen as a list of eip155 chains: those that have a scope of their own. -/

namespace WalletSession
namespace CaveatValue

/-- The chains that are granted, each once, in the order of their scopes. -/
def permittedChains (v : CaveatValue) : List ChainNumber :=
  (v.scopes.filterMap fun e => (ScopeName.parse e.1).eip155?).eraseDups

/-- Grant a chain as an optional scope with these accounts, unless it is granted. -/
def grantChain (accounts : List Address) (v : CaveatValue) (n : ChainNumber) : CaveatValue :=
  let scope := (Eip155.chainId n).text
  if v.contains scope then v
  else { v with optional := v.optional.insert scope { accounts := accountIds scope accounts } }

/-- Grant a chain with the accounts that are granted already. -/
def addPermittedChain (n : ChainNumber) (v : CaveatValue) : CaveatValue := v.grantChain v.ethAccounts n

/-- Grant exactly these chains; new ones get the accounts that were granted before. -/
def setPermittedChains (chains : List ChainNumber) (v : CaveatValue) : CaveatValue :=
  let kept := v.filterScopes fun name => (ScopeName.parse name).eip155?.all chains.contains
  chains.foldl (·.grantChain v.ethAccounts) kept

end CaveatValue
end WalletSession
