import WalletSession.Caveat.PermittedChains
import WalletSession.Proofs.Caveat.EthAccounts

set_option autoImplicit false

/-! # Reading and writing Ethereum accounts

A value is written some addresses by listing them under every scope that has Ethereum accounts, and its accounts are
read from all these scopes together. So what is read is what was written last, each address once, unless there is no
scope to write to; and nothing but the lists of accounts under these scopes is changed
(`CaveatValue.ethAccounts_lens`). -/

namespace WalletSession
namespace CaveatValue

variable {v : CaveatValue}

/-- Every scope that has Ethereum accounts lists the addresses once more. -/
theorem ethAccounts_withEthAccounts (addresses : List Address)
    (h : ∃ name, v.contains name = true ∧ isEthScope name = true) :
    (v.withEthAccounts addresses).ethAccounts = addresses.eraseDups := by
  have hscope (name : String) (o : ScopeObject) :
      ScopeObject.ethAccounts (if isEthScope name then { o with accounts := accountIds name addresses } else o) name =
        if isEthScope name then addresses else [] := by
    unfold ScopeObject.ethAccounts
    split
    · next heth => exact filterMap_accountIds heth addresses
    · rfl
  obtain ⟨name, hcontains, heth⟩ := h
  obtain ⟨o, ho⟩ := contains_iff.1 hcontains
  rw [ethAccounts_eq, withEthAccounts, scopes_mapScopes, List.flatMap_map]
  simp only [hscope]
  exact eraseDups_flatMap_ite ⟨(name, o), ho, heth⟩

/-- Without a scope that has Ethereum accounts there is nothing to write to. -/
theorem withEthAccounts_eq_self {addresses : List Address}
    (h : ∀ name, v.contains name = true → isEthScope name = false) : v.withEthAccounts addresses = v := by
  refine mapScopes_eq_self fun name o ho => ?_
  rw [h name (contains_iff.2 ⟨o, ho⟩)]
  rfl

/-- What is written later replaces what was written before. -/
theorem withEthAccounts_withEthAccounts (first second : List Address) (v : CaveatValue) :
    (v.withEthAccounts first).withEthAccounts second = v.withEthAccounts second := by
  unfold withEthAccounts
  rw [mapScopes_mapScopes]
  congr 1
  funext name o
  cases isEthScope name <;> rfl

/-- The permitted chains are read from the names of the scopes alone. -/
theorem permittedChains_mapScopes (f : String → ScopeObject → ScopeObject) (v : CaveatValue) :
    (v.mapScopes f).permittedChains = v.permittedChains := by
  rw [permittedChains, scopes_mapScopes, List.filterMap_map]
  rfl

/-- **What is read is what was written last, and nothing else is changed.** -/
theorem ethAccounts_lens (v : CaveatValue) (a b : List Address) :
    let u := v.withEthAccounts a
    ((∃ name, v.contains name = true ∧ isEthScope name = true) → u.ethAccounts = a.eraseDups) ∧
    ((∀ name, v.contains name = true → isEthScope name = false) → u = v) ∧
    u.withEthAccounts b = v.withEthAccounts b ∧
    u.sessionProperties = v.sessionProperties ∧
    v.required.ChangesAccounts (fun name _ => a.map fun x => name ++ ":" ++ x.text) u.required ∧
    v.optional.ChangesAccounts (fun name _ => a.map fun x => name ++ ":" ++ x.text) u.optional ∧
    u.permittedChains = v.permittedChains := by
  intro u
  refine ⟨ethAccounts_withEthAccounts a, withEthAccounts_eq_self, withEthAccounts_withEthAccounts a b v, rfl, ?_, ?_,
    permittedChains_mapScopes _ v⟩
  · exact ScopeMap.changesAccounts_map _ v.required
  · exact ScopeMap.changesAccounts_map _ v.optional

end CaveatValue
end WalletSession
