import Mathlib.Data.Finset.Option
import Mathlib.Data.Finset.Union
import WalletSession.Proofs.Caveat.EthAccounts

set_option autoImplicit false

/-! # Removals in a row

Each removal decides by itself whether it revokes the permission, looking at what the removals before it have left.
Still a row of removals comes down to the set of its targets: of accounts, the permission is left with those that are
not in the set and is revoked with the last of them; of scopes, it is left with the optional ones that are not in
the set and is revoked by a required one. So the order of the removals does not matter
(`CaveatValue.removals_order_free`). -/

namespace WalletSession
namespace CaveatValue

variable {v : CaveatValue}

/-! ## Ethereum accounts -/

theorem keepingEthAccounts_eq_self {keep : String → Bool}
    (h : ∀ name o, (name, o) ∈ v.scopes → isEthScope name = true → ∀ account ∈ o.accounts, keep account = true) :
    v.keepingEthAccounts keep = v := by
  refine mapScopes_eq_self fun name o ho => ?_
  split
  · next heth => rw [List.filter_eq_self.2 (h name o ho heth)]
  · rfl

theorem keepingEthAccounts_keepingEthAccounts (p q : String → Bool) (v : CaveatValue) :
    (v.keepingEthAccounts p).keepingEthAccounts q = v.keepingEthAccounts fun account => p account && q account := by
  unfold keepingEthAccounts
  rw [mapScopes_mapScopes]
  congr 1
  funext name o
  cases isEthScope name
  · rfl
  · simp only [if_true, List.filter_filter, Bool.and_comm]

/-- The value without some Ethereum accounts. -/
def withoutEthAccounts (gone : Finset Address) (v : CaveatValue) : CaveatValue :=
  v.keepingEthAccounts fun account => (ethAddress? account).all (· ∉ gone)

/-- Without accounts that are not there the value is the same. -/
theorem withoutEthAccounts_eq_self {gone : Finset Address} (h : ∀ a ∈ v.ethAccounts, a ∉ gone) :
    v.withoutEthAccounts gone = v := by
  refine keepingEthAccounts_eq_self fun name o ho heth account haccount => ?_
  cases ha : ethAddress? account with
  | none => rfl
  | some a =>
    have hmem : a ∈ v.ethAccounts := mem_ethAccounts_iff.2 ⟨name, o, ho, heth, account, haccount, ha⟩
    rw [Option.all_some, decide_eq_true_eq]
    exact h a hmem

theorem withoutEthAccounts_singleton (a : Address) (v : CaveatValue) :
    v.withoutEthAccounts {a} = v.withoutEthAccount a := by
  have hkeep (account : String) : (ethAddress? account).all (· ∉ ({a} : Finset Address)) =
      (ethAddress? account != some a) := by
    rw [Bool.eq_iff_iff, bne_iff_ne]
    cases ethAddress? account <;> simp
  unfold withoutEthAccounts
  simp only [hkeep]
  rfl

theorem withoutEthAccounts_withoutEthAccounts (gone more : Finset Address) (v : CaveatValue) :
    (v.withoutEthAccounts gone).withoutEthAccounts more = v.withoutEthAccounts (gone ∪ more) := by
  have hkeep (account : String) :
      ((ethAddress? account).all (· ∉ gone) && (ethAddress? account).all (· ∉ more)) =
        (ethAddress? account).all (· ∉ gone ∪ more) := by
    rw [Bool.eq_iff_iff, Bool.and_eq_true]
    cases ethAddress? account <;> simp
  unfold withoutEthAccounts
  simp only [keepingEthAccounts_keepingEthAccounts, hkeep]

theorem ethAccounts_withoutEthAccounts (gone : Finset Address) (v : CaveatValue) :
    (v.withoutEthAccounts gone).ethAccounts = v.ethAccounts.filter (· ∉ gone) :=
  ethAccounts_keepingEthAccounts _ v

theorem mem_ethAccounts_withoutEthAccounts {gone : Finset Address} {a : Address} :
    a ∈ (v.withoutEthAccounts gone).ethAccounts ↔ a ∈ v.ethAccounts ∧ a ∉ gone := by
  rw [ethAccounts_withoutEthAccounts, List.mem_filter, decide_eq_true_eq]

/-! ## Rows of removals -/

/-- A permission after a removal, as the value of its caveat, or nothing once it is revoked. -/
def afterRemoval (kind : RemovalKind) (v : CaveatValue) (target : String) : Option CaveatValue :=
  match v.remove kind target with
  | .unchanged => some v
  | .updated w => some w
  | .revoked => none

/-- The permission with a value after some removals, one after the other; nothing happens to it once it is revoked. -/
def afterRemovals (kind : RemovalKind) (v : CaveatValue) (targets : List String) : Option CaveatValue :=
  targets.foldlM (afterRemoval kind) v

/-- If removals take things out of a value, and things can be taken out one after the other or at once, a row of
removals takes out what they take out together. -/
theorem afterRemovals_eq {κ : Type} [DecidableEq κ] {kind : RemovalKind}
    (after : Finset κ → CaveatValue → Option CaveatValue) (taken : String → Finset κ)
    (hempty : ∀ v, after ∅ v = some v)
    (hbind : ∀ gone more v, (after gone v).bind (after more) = after (gone ∪ more) v)
    (hone : ∀ v target, afterRemoval kind v target = after (taken target) v) (v : CaveatValue)
    (targets : List String) : v.afterRemovals kind targets = after (targets.toFinset.biUnion taken) v := by
  induction targets generalizing v with
  | nil => exact (hempty v).symm
  | cons target rest ih =>
    have hrest : after (rest.toFinset.biUnion taken) = fun w => w.afterRemovals kind rest :=
      funext fun w => (ih w).symm
    rw [List.toFinset_cons, Finset.biUnion_insert, ← hbind, ← hone, hrest]
    rfl

/-! ## Removals of accounts -/

/-- The permission with a value after it has lost some Ethereum accounts. -/
def afterLosing (gone : Finset Address) (v : CaveatValue) : Option CaveatValue :=
  if v.ethAccounts ≠ [] ∧ ∀ a ∈ v.ethAccounts, a ∈ gone then none else some (v.withoutEthAccounts gone)

/-- Losing accounts that are not there is no loss, even if there are none at all. -/
theorem afterLosing_of_disjoint {gone : Finset Address} (h : ∀ a ∈ v.ethAccounts, a ∉ gone) :
    v.afterLosing gone = some v := by
  have hkeeps : ¬ (v.ethAccounts ≠ [] ∧ ∀ a ∈ v.ethAccounts, a ∈ gone) := by
    rintro ⟨hne, hall⟩
    obtain ⟨a, ha⟩ := List.exists_mem_of_ne_nil _ hne
    exact h a ha (hall a ha)
  rw [afterLosing, if_neg hkeeps, withoutEthAccounts_eq_self h]

theorem afterLosing_empty (v : CaveatValue) : v.afterLosing ∅ = some v :=
  afterLosing_of_disjoint fun a _ => Finset.notMem_empty a

/-- What is lost in two steps is lost at once. -/
theorem bind_afterLosing (gone more : Finset Address) (v : CaveatValue) :
    (v.afterLosing gone).bind (afterLosing more) = v.afterLosing (gone ∪ more) := by
  by_cases hgone : v.ethAccounts ≠ [] ∧ ∀ a ∈ v.ethAccounts, a ∈ gone
  · have hboth : v.ethAccounts ≠ [] ∧ ∀ a ∈ v.ethAccounts, a ∈ gone ∪ more :=
      ⟨hgone.1, fun a ha => Finset.mem_union_left _ (hgone.2 a ha)⟩
    simp only [afterLosing, if_pos hgone, if_pos hboth, Option.bind_none]
  · -- Some account is left by the first step, unless there was none before.
    have hrest : ((v.withoutEthAccounts gone).ethAccounts ≠ [] ∧
          ∀ a ∈ (v.withoutEthAccounts gone).ethAccounts, a ∈ more) ↔
        (v.ethAccounts ≠ [] ∧ ∀ a ∈ v.ethAccounts, a ∈ gone ∪ more) := by
      simp only [ne_eq, List.eq_nil_iff_forall_not_mem, mem_ethAccounts_withoutEthAccounts, Finset.mem_union] at hgone ⊢
      grind
    simp only [afterLosing, if_neg hgone, Option.bind_some, hrest, withoutEthAccounts_withoutEthAccounts]

/-- The removal of an account is the loss of this account; a target that is no address is no account. -/
theorem afterRemoval_account (v : CaveatValue) (target : String) :
    afterRemoval .account v target = v.afterLosing (Address.parse? target).toFinset := by
  cases h : Address.parse? target with
  | none => simp only [afterRemoval, remove, removeAccount, h, Option.toFinset_none, afterLosing_empty]
  | some a =>
    simp only [afterRemoval, remove, removeAccount, h, Option.toFinset_some]
    by_cases ha : a ∈ v.ethAccounts
    · have hlast : (v.withoutEthAccount a).ethAccounts.isEmpty = true ↔
          v.ethAccounts ≠ [] ∧ ∀ b ∈ v.ethAccounts, b ∈ ({a} : Finset Address) := by
        rw [List.isEmpty_iff, ← withoutEthAccounts_singleton, List.eq_nil_iff_forall_not_mem]
        simp only [mem_ethAccounts_withoutEthAccounts]
        grind
      rw [if_pos (listsEthAccount_iff.2 ha), afterLosing, withoutEthAccounts_singleton]
      by_cases hall : v.ethAccounts ≠ [] ∧ ∀ b ∈ v.ethAccounts, b ∈ ({a} : Finset Address)
      · rw [if_pos (hlast.2 hall), if_pos hall]
      · rw [if_neg (mt hlast.1 hall), if_neg hall]
    · have hdisjoint : ∀ b ∈ v.ethAccounts, b ∉ ({a} : Finset Address) := by
        intro b hb hba
        exact ha (Finset.mem_singleton.1 hba ▸ hb)
      rw [if_neg (mt listsEthAccount_iff.1 ha), afterLosing_of_disjoint hdisjoint]

/-- The addresses that some targets are. -/
def addresses (targets : List String) : Finset Address :=
  targets.toFinset.biUnion fun target => (Address.parse? target).toFinset

theorem mem_addresses {targets : List String} {a : Address} :
    a ∈ addresses targets ↔ ∃ target ∈ targets, Address.parse? target = some a := by
  simp [addresses]

/-- Removals of accounts come down to the set of these accounts. -/
theorem afterRemovals_account (v : CaveatValue) (targets : List String) :
    v.afterRemovals .account targets = v.afterLosing (addresses targets) :=
  afterRemovals_eq afterLosing _ afterLosing_empty bind_afterLosing afterRemoval_account v targets

/-! ## Removals of scopes -/

/-- The permission with a value after it has lost some scopes. -/
def afterDropping (gone : Finset String) (v : CaveatValue) : Option CaveatValue :=
  if ∃ name ∈ gone, v.required.contains name = true then none
  else some { v with optional := v.optional.filter fun name _ => name ∉ gone }

/-- Losing scopes that are not there is no loss. -/
theorem afterDropping_of_disjoint {gone : Finset String} (h : ∀ name ∈ gone, v.contains name = false) :
    v.afterDropping gone = some v := by
  have hsides : ∀ name ∈ gone, v.required.contains name = false ∧ v.optional.contains name = false := by
    intro name hname
    exact Bool.or_eq_false_iff.1 (h name hname)
  have hrequired : ¬ ∃ name ∈ gone, v.required.contains name = true := by
    rintro ⟨name, hname, hcontains⟩
    exact absurd hcontains (Bool.eq_false_iff.1 (hsides name hname).1)
  have hoptional : (v.optional.filter fun name _ => name ∉ gone) = v.optional := by
    refine KeyMap.filter_eq_self fun name o ho => ?_
    have hcontains : v.optional.contains name = true := KeyMap.contains_iff_exists.2 ⟨o, ho⟩
    rw [decide_eq_true_eq]
    exact fun hname => absurd hcontains (Bool.eq_false_iff.1 (hsides name hname).2)
  rw [afterDropping, if_neg hrequired, hoptional]

theorem afterDropping_empty (v : CaveatValue) : v.afterDropping ∅ = some v :=
  afterDropping_of_disjoint fun name hname => absurd hname (Finset.notMem_empty name)

theorem bind_afterDropping (gone more : Finset String) (v : CaveatValue) :
    (v.afterDropping gone).bind (afterDropping more) = v.afterDropping (gone ∪ more) := by
  have hunion : (∃ name ∈ gone ∪ more, v.required.contains name = true) ↔
      (∃ name ∈ gone, v.required.contains name = true) ∨ ∃ name ∈ more, v.required.contains name = true := by
    simp only [Finset.mem_union, or_and_right, exists_or]
  have hfilter : (v.optional.filter fun name _ => name ∉ gone).filter (fun name _ => name ∉ more) =
      v.optional.filter fun name _ => name ∉ gone ∪ more := by
    simp only [KeyMap.filter_filter, Finset.mem_union, not_or, Bool.decide_and]
  unfold afterDropping
  by_cases hgone : ∃ name ∈ gone, v.required.contains name = true
  · rw [if_pos hgone, if_pos (hunion.2 (Or.inl hgone))]
    rfl
  · rw [if_neg hgone]
    simp only [Option.bind_some, hunion, hgone, false_or, hfilter]

/-- The removal of a scope is the loss of this scope, if it is there. -/
theorem afterRemoval_scope (v : CaveatValue) (target : String) :
    afterRemoval .scope v target = v.afterDropping {target} := by
  have hcontains : (∃ name ∈ ({target} : Finset String), v.required.contains name = true) ↔
      v.required.contains target = true := by simp
  have herase : v.optional.erase target = v.optional.filter fun name _ => name ∉ ({target} : Finset String) := by
    simp only [KeyMap.erase, Finset.mem_singleton, ne_eq]
  simp only [afterRemoval, remove, removeScope]
  by_cases hrequired : v.required.contains target = true
  · rw [if_pos hrequired, afterDropping, if_pos (hcontains.2 hrequired)]
  by_cases hoptional : v.optional.contains target = true
  · rw [if_neg hrequired, if_pos hoptional, afterDropping, if_neg (mt hcontains.1 hrequired), ← herase]
  · have hdisjoint : ∀ name ∈ ({target} : Finset String), v.contains name = false := by
      simp [contains, hrequired, hoptional]
    rw [if_neg hrequired, if_neg hoptional, afterDropping_of_disjoint hdisjoint]

theorem afterRemovals_scope (v : CaveatValue) (targets : List String) :
    v.afterRemovals .scope targets = v.afterDropping targets.toFinset := by
  have h := afterRemovals_eq afterDropping _ afterDropping_empty bind_afterDropping afterRemoval_scope v targets
  rwa [Finset.biUnion_singleton_eq_self] at h

/-- **The order of removals does not matter**, nor does their number. -/
theorem removals_order_free (v : CaveatValue) :
    (∀ targets targets' : List String, (∀ t, t ∈ targets ↔ t ∈ targets') →
      v.afterRemovals .scope targets = v.afterRemovals .scope targets') ∧
    (∀ targets targets' : List String,
      (∀ a, (∃ t ∈ targets, Address.parse? t = some a) ↔ ∃ t ∈ targets', Address.parse? t = some a) →
      v.afterRemovals .account targets = v.afterRemovals .account targets') ∧
    (∀ targets, v.afterRemovals .scope targets = none ↔ ∃ t ∈ targets, v.required.contains t = true) ∧
    ∀ targets, v.afterRemovals .account targets = none ↔
      v.ethAccounts ≠ [] ∧ ∀ a ∈ v.ethAccounts, ∃ t ∈ targets, Address.parse? t = some a := by
  refine ⟨fun targets targets' hsame => ?_, fun targets targets' hsame => ?_, fun targets => ?_, fun targets => ?_⟩
  · have hset : targets.toFinset = targets'.toFinset := by
      ext t
      simpa using hsame t
    rw [afterRemovals_scope, afterRemovals_scope, hset]
  · have hset : addresses targets = addresses targets' := by
      ext a
      rw [mem_addresses, mem_addresses, hsame]
    rw [afterRemovals_account, afterRemovals_account, hset]
  · rw [afterRemovals_scope, afterDropping]
    simp
  · rw [afterRemovals_account, afterLosing]
    simp only [mem_addresses, ite_eq_left_iff, reduceCtorEq, imp_false, not_not]

/-- Spelled in another case the account is the same, and a target that is no address counts for nothing; the last
of two accounts takes the permission with it. -/
theorem removals_order_free_spelled :
    let a := "0xab16a96d359ec26a11e2c2b3d8f8b8942d5bfcdb"
    let a' := "0XAB16A96D359EC26A11E2C2B3D8F8B8942D5BFCDB"
    let b := "0x5cfe73b6021e818b776b421b1c4db2474086a7e1"
    let v : CaveatValue := {
      required := .ofList [("eip155:1", { accounts := ["eip155:1:" ++ a] })]
      optional := .ofList [("eip155:10", { accounts := ["eip155:10:" ++ b] }), ("wallet", {})] }
    (∀ x, (∃ t ∈ [b, a], Address.parse? t = some x) ↔ ∃ t ∈ [a', "b", b, a], Address.parse? t = some x) ∧
    v.afterRemovals .account [b, a] = v.afterRemovals .account [a', "b", b, a] ∧
    v.afterRemovals .account [b, a] = none ∧ v.afterRemovals .account [b, b] ≠ none ∧
    v.afterRemovals .scope ["wallet", "eip155:10"] = v.afterRemovals .scope ["eip155:10", "wallet", "wallet"] ∧
    v.afterRemovals .scope ["wallet", "eip155:10"] ≠ none := by
  intro a a' b v
  have hcase : Address.parse? a' = Address.parse? a := by decide +kernel
  have hno : Address.parse? "b" = none := by decide +kernel
  have hsame : ∀ x, (∃ t ∈ [b, a], Address.parse? t = some x) ↔ ∃ t ∈ [a', "b", b, a], Address.parse? t = some x := by
    intro x
    simp only [List.exists_mem_cons_iff, List.not_mem_nil, false_and, exists_false, or_false, hcase, hno,
      reduceCtorEq, false_or]
    constructor
    · rintro (hb | ha)
      · exact .inr (.inl hb)
      · exact .inl ha
    · rintro (ha | hb | ha)
      · exact .inr ha
      · exact .inl hb
      · exact .inr ha
  obtain ⟨hscopes, haccounts, hrequired, hlost⟩ := removals_order_free v
  have hall : v.ethAccounts ≠ [] ∧ ∀ x ∈ v.ethAccounts, ∃ t ∈ [b, a], Address.parse? t = some x := by
    decide +kernel
  have hsome : ¬ (v.ethAccounts ≠ [] ∧ ∀ x ∈ v.ethAccounts, ∃ t ∈ [b, b], Address.parse? t = some x) := by
    decide +kernel
  have hkept : ¬ ∃ t ∈ ["wallet", "eip155:10"], v.required.contains t = true := by decide +kernel
  exact ⟨hsame, haccounts _ _ hsame, (hlost _).2 hall, mt (hlost _).1 hsome, hscopes _ _ (by grind),
    mt (hrequired _).1 hkept⟩

end CaveatValue
end WalletSession
