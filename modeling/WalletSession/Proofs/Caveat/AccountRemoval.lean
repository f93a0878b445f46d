import WalletSession.Proofs.Caveat.Removal

set_option autoImplicit false

/-! # The removal of an account

What the removal of an account comes to can be told from the accounts of the value alone
(`CaveatValue.remove_account_eq`): nothing if it is not among them, the end of the permission if it is the only one, and
otherwise the same value with fewer account ids. Those that go are the ids of this account, under the scopes that have
Ethereum accounts, in every spelling (`CaveatValue.account_removal`). -/

namespace WalletSession

/-! ## A side of the value -/

/-- `after` is `before` without the ids of one account. -/
structure ScopeMap.LosesAccount (a : Address) (before after : ScopeMap) : Prop where
  keys_eq : after.keys = before.keys
  /-- Other scopes are unchanged. -/
  other : ∀ name o, before.get? name = some o → isEthScope name = false → after.get? name = some o
  /-- Of the scopes that have Ethereum accounts, nothing else changes. -/
  eth : ∀ name o, before.get? name = some o → isEthScope name = true →
    after.get? name = some { o with accounts := o.accounts.filter fun account => ¬ a.NamedBy account }

theorem ScopeMap.losesAccount_map (a : Address) (m : ScopeMap) : m.LosesAccount a (m.map fun name o =>
    if isEthScope name then { o with accounts := o.accounts.filter (ethAddress? · != some a) } else o) := by
  have hkeep (account : String) : (ethAddress? account != some a) = decide (¬ a.NamedBy account) := by
    rw [Bool.eq_iff_iff, bne_iff_ne, decide_eq_true_eq, ne_eq, ethAddress?_eq_some_iff]
  have hchanges := m.changesAccounts_map fun _ accounts => accounts.filter (ethAddress? · != some a)
  refine ⟨hchanges.keys_eq, hchanges.other, fun name o ho heth => ?_⟩
  rw [hchanges.eth name o ho heth]
  simp only [hkeep]

namespace CaveatValue

variable {v : CaveatValue} {a : Address} {target : String}

/-! ## The three outcomes -/

theorem ethAccounts_withoutEthAccount (a : Address) (v : CaveatValue) :
    (v.withoutEthAccount a).ethAccounts = v.ethAccounts.filter (· ≠ a) := by
  rw [← withoutEthAccounts_singleton, ethAccounts_withoutEthAccounts]
  simp only [Finset.mem_singleton, ne_eq]

/-- The accounts of the value decide what the removal of an account comes to. -/
theorem remove_account_eq (h : Address.parse? target = some a) :
    v.remove .account target = if a ∈ v.ethAccounts then
      if v.ethAccounts = [a] then .revoked else .updated (v.withoutEthAccount a)
    else .unchanged := by
  simp only [remove, removeAccount, h, listsEthAccount_iff]
  by_cases ha : a ∈ v.ethAccounts
  · have hlast : (v.withoutEthAccount a).ethAccounts.isEmpty = true ↔ v.ethAccounts = [a] := by
      rw [List.isEmpty_iff, ethAccounts_withoutEthAccount, filter_ne_eq_nil_iff v.nodup_ethAccounts ha]
    simp only [hlast]
  · rw [if_neg ha, if_neg ha]

theorem remove_account_eq_unchanged_iff (h : Address.parse? target = some a) :
    v.remove .account target = .unchanged ↔ a ∉ v.ethAccounts := by
  rw [remove_account_eq h]
  split
  · next ha => split <;> simp [ha]
  · next ha => simp [ha]

theorem remove_account_eq_revoked_iff (h : Address.parse? target = some a) :
    v.remove .account target = .revoked ↔ v.ethAccounts = [a] := by
  rw [remove_account_eq h]
  split
  · split <;> simp_all
  · next ha =>
    simp only [reduceCtorEq, false_iff]
    rintro hone
    simp [hone] at ha

/-- **The removal of an account takes this account out everywhere, and nothing else.** A target is an address in any of
its spellings, and so are the addresses in account ids. -/
theorem account_removal (v : CaveatValue) (target : String) :
    ((∀ a : Address, ¬ a.SpelledBy target) → v.remove .account target = .unchanged) ∧
    ∀ a : Address, a.SpelledBy target →
      (v.remove .account target = .unchanged ↔ a ∉ v.ethAccounts) ∧
      (v.remove .account target = .revoked ↔ v.ethAccounts = [a]) ∧
      (a ∈ v.ethAccounts ∧ v.ethAccounts ≠ [a] → ∃ u, v.remove .account target = .updated u) ∧
      ∀ u, v.remove .account target = .updated u →
        u.sessionProperties = v.sessionProperties ∧
        v.required.LosesAccount a u.required ∧ v.optional.LosesAccount a u.optional ∧
        u.ethAccounts = v.ethAccounts.filter (· ≠ a) ∧
        ∀ again, a.SpelledBy again → u.remove .account again = .unchanged := by
  refine ⟨fun hno => ?_, fun a ha => ?_⟩
  · have hnone : Address.parse? target = none := by
      rw [Option.eq_none_iff_forall_ne_some]
      exact fun a h => hno a (Address.parse?_eq_some_iff.1 h)
    simp only [remove, removeAccount, hnone]
  · have hparse := Address.parse?_eq_some_iff.2 ha
    refine ⟨remove_account_eq_unchanged_iff hparse, remove_account_eq_revoked_iff hparse, fun hboth => ?_,
      fun u hu => ?_⟩
    · obtain ⟨hmem, hmore⟩ := hboth
      exact ⟨_, by rw [remove_account_eq hparse, if_pos hmem, if_neg hmore]⟩
    · have hu : v.withoutEthAccount a = u := by
        rw [remove_account_eq hparse] at hu
        split at hu
        · split at hu
          · cases hu
          · cases hu
            rfl
        · cases hu
      subst hu
      refine ⟨rfl, v.required.losesAccount_map a, v.optional.losesAccount_map a, ethAccounts_withoutEthAccount a v,
        fun again hagain => ?_⟩
      rw [remove_account_eq_unchanged_iff (Address.parse?_eq_some_iff.2 hagain), ethAccounts_withoutEthAccount]
      simp

end CaveatValue
end WalletSession
