import WalletSession.Caveat.PermittedChains
import WalletSession.Caveat.Removal
import WalletSession.Proofs.KeyMap

set_option autoImplicit false

/-! # What holds of all scopes of a value

A caveat value is changed scope by scope: objects of one name are merged, the Ethereum accounts of a scope are written
anew or some of them are dropped, and a chain is granted under a new scope. What these steps keep of one scope
(`KeptByChanges`) is kept of all scopes on both sides by every change of the value. -/

namespace WalletSession

/-- A property of scopes, by name and object, that the steps of which changes are made do not take away. -/
structure KeptByChanges (p : String → ScopeObject → Prop) : Prop where
  merge : ∀ (name : String) (a b : ScopeObject), p name a → p name b → p name (a.merge b)
  /-- The accounts under a scope are written anew. -/
  written : ∀ (name : String) (o : ScopeObject) (addresses : List Address), isEthScope name = true → p name o →
    p name { o with accounts := accountIds name addresses }
  /-- Some of the accounts under a scope are dropped. -/
  dropped : ∀ (name : String) (o : ScopeObject) (keep : String → Bool), isEthScope name = true → p name o →
    p name { o with accounts := o.accounts.filter keep }
  /-- A chain is granted. -/
  granted : ∀ (n : ChainNumber) (addresses : List Address),
    p (Eip155.chainId n).text { accounts := accountIds (Eip155.chainId n).text addresses }

namespace CaveatValue

/-- Every scope on both sides satisfies `p`. -/
def AllScopes (p : String → ScopeObject → Prop) (v : CaveatValue) : Prop := v.required.All p ∧ v.optional.All p

namespace AllScopes

variable {p q : String → ScopeObject → Prop} {v w : CaveatValue}

theorem mapScopes (hv : v.AllScopes p) {f : String → ScopeObject → ScopeObject}
    (hf : ∀ name o, p name o → q name (f name o)) : (v.mapScopes f).AllScopes q :=
  ⟨hv.1.map hf, hv.2.map hf⟩

theorem filterScopes (hv : v.AllScopes p) (keep : String → Bool) : (v.filterScopes keep).AllScopes p :=
  ⟨hv.1.filter _, hv.2.filter _⟩

variable (hp : KeptByChanges p)
include hp

theorem withEthAccounts (hv : v.AllScopes p) (addresses : List Address) : (v.withEthAccounts addresses).AllScopes p := by
  refine hv.mapScopes fun name o ho => ?_
  split
  · next heth => exact hp.written name o addresses heth ho
  · exact ho

theorem withoutEthAccount (hv : v.AllScopes p) (address : Address) : (v.withoutEthAccount address).AllScopes p := by
  refine hv.mapScopes fun name o ho => ?_
  split
  · next heth => exact hp.dropped name o _ heth ho
  · exact ho

theorem grantChain (hv : v.AllScopes p) (accounts : List Address) (n : ChainNumber) :
    (v.grantChain accounts n).AllScopes p := by
  unfold CaveatValue.grantChain
  simp only
  split
  · exact hv
  · exact ⟨hv.1, hv.2.insert (hp.granted n accounts)⟩

theorem setPermittedChains (hv : v.AllScopes p) (chains : List ChainNumber) :
    (v.setPermittedChains chains).AllScopes p := by
  have hgrants (kept : CaveatValue) (hkept : kept.AllScopes p) :
      (chains.foldl (·.grantChain v.ethAccounts) kept).AllScopes p := by
    induction chains generalizing kept with
    | nil => exact hkept
    | cons n rest ih => exact ih _ (hkept.grantChain hp _ n)
  exact hgrants _ (hv.filterScopes _)

theorem merge (hv : v.AllScopes p) (hw : w.AllScopes p) : (v.merge w).AllScopes p :=
  ⟨hv.1.unionWith hw.1 hp.merge, hv.2.unionWith hw.2 hp.merge⟩

theorem session (hv : v.AllScopes p) : v.session.All p := hv.1.unionWith hv.2 hp.merge

theorem of_remove (hv : v.AllScopes p) {kind : RemovalKind} {target : String}
    (hw : v.remove kind target = .updated w) : w.AllScopes p := by
  cases kind with
  | scope =>
    simp only [remove, removeScope] at hw
    split at hw
    · cases hw
    · split at hw
      · cases hw
        exact ⟨hv.1, hv.2.filter _⟩
      · cases hw
  | account =>
    simp only [remove, removeAccount] at hw
    split at hw
    · cases hw
    · split at hw
      · split at hw
        · cases hw
        · cases hw
          exact hv.withoutEthAccount hp _
      · cases hw

end AllScopes
end CaveatValue
end WalletSession
