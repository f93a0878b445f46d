import WalletSession.Proofs.Caveat.EthAccounts
import WalletSession.Proofs.Caveat.PermittedChains
import WalletSession.Proofs.Scope.MergeLaws

set_option autoImplicit false

/-! # Grants and sessions

A permission is granted more by merging another value into the one it has, side by side; a session is told what both
sides grant together. So a grant adds to each side, and thereby to the session, just what is granted. It does not
matter whether the sessions of two values are merged or the session is made of the merged values, as the capabilities
of a session are those of four scope maps in any order (`CaveatValue.session_of_grants`). -/

namespace WalletSession

/-! ## Grants -/

namespace ScopeMap

/-- `item` is in a list of the scope `name`. -/
def Lists (m : ScopeMap) (list : ScopeObject → List String) (name item : String) : Prop :=
  ∃ o, m.get? name = some o ∧ item ∈ list o

/-- `m` grants what `a` or `b` grants, name by name. -/
structure IsUnion (m a b : ScopeMap) : Prop where
  contains_iff : ∀ name, m.contains name = true ↔ a.contains name = true ∨ b.contains name = true
  methods : ∀ name item, m.Lists (·.methods) name item ↔ a.Lists (·.methods) name item ∨ b.Lists (·.methods) name item
  notifications : ∀ name item,
    m.Lists (·.notifications) name item ↔ a.Lists (·.notifications) name item ∨ b.Lists (·.notifications) name item
  accounts : ∀ name item,
    m.Lists (·.accounts) name item ↔ a.Lists (·.accounts) name item ∨ b.Lists (·.accounts) name item

theorem isUnion_merge (a b : ScopeMap) : (a.merge b).IsUnion a b where
  contains_iff name := by rw [contains_merge, Bool.or_eq_true]
  methods _ _ := exists_get?_merge_iff fun _ _ => mem_distinctUnion
  notifications _ _ := exists_get?_merge_iff fun _ _ => mem_distinctUnion
  accounts _ _ := exists_get?_merge_iff fun _ _ => mem_distinctUnion

end ScopeMap

namespace CaveatValue

theorem merge_assoc (a b c : CaveatValue) : (a.merge b).merge c = a.merge (b.merge c) := by
  simp only [merge, Std.Associative.assoc, KeyMap.override_assoc]

theorem merge_empty (v : CaveatValue) : v.merge empty = v := rfl

theorem empty_merge (v : CaveatValue) : empty.merge v = v := by
  simp only [merge, empty, ScopeMap.empty_merge, KeyMap.override, KeyMap.empty_unionWith]

/-! ## Sessions -/

variable {v : CaveatValue}

theorem contains_session (v : CaveatValue) (name : String) : v.session.contains name = v.contains name :=
  ScopeMap.contains_merge v.required v.optional name

/-- Merging and viewing may be done in either order. -/
theorem capabilities_session_merge (l r : CaveatValue) :
    (l.merge r).session.capabilities = (l.session.merge r.session).capabilities := by
  simp only [session, merge, ScopeMap.capabilities_merge]
  ac_rfl

/-- The value whose scopes are those of the session, all on one side. -/
def joined (v : CaveatValue) : CaveatValue := { v with required := v.session, optional := .empty }

theorem exists_mem_scopes_iff {p : ScopeObject → Prop} {name : String} : (∃ o, (name, o) ∈ v.scopes ∧ p o) ↔
    (∃ o, v.required.get? name = some o ∧ p o) ∨ ∃ o, v.optional.get? name = some o ∧ p o := by
  simp only [scopes, List.mem_append, KeyMap.mem_toList, or_and_right, exists_or]

theorem exists_mem_scopes_joined_iff {p : ScopeObject → Prop} (hp : ∀ a b, p (ScopeObject.merge a b) ↔ p a ∨ p b)
    {name : String} : (∃ o, (name, o) ∈ v.joined.scopes ∧ p o) ↔ ∃ o, (name, o) ∈ v.scopes ∧ p o := by
  have hoptional : ¬ ∃ o, v.joined.optional.get? name = some o ∧ p o := by
    rintro ⟨o, ho, -⟩
    cases ho
  rw [exists_mem_scopes_iff, or_iff_left hoptional, exists_mem_scopes_iff]
  exact ScopeMap.exists_get?_merge_iff hp

theorem contains_joined (v : CaveatValue) (name : String) : v.joined.contains name = v.contains name := by
  rw [contains, joined, contains_session]
  exact Bool.or_false _

theorem ethAccounts_joined_perm (v : CaveatValue) : v.joined.ethAccounts.Perm v.ethAccounts := by
  refine (List.perm_ext_iff_of_nodup v.joined.nodup_ethAccounts v.nodup_ethAccounts).2 fun a => ?_
  have hscope (name : String) :
      (∃ o, (name, o) ∈ v.joined.scopes ∧ ∃ account ∈ o.accounts, ethAddress? account = some a) ↔
        ∃ o, (name, o) ∈ v.scopes ∧ ∃ account ∈ o.accounts, ethAddress? account = some a :=
    exists_mem_scopes_joined_iff fun o o' => by simp only [ScopeObject.merge, mem_distinctUnion, or_and_right, exists_or]
  simp only [mem_ethAccounts_iff, and_left_comm, exists_and_left, hscope]

theorem permittedChains_joined_perm (v : CaveatValue) : v.joined.permittedChains.Perm v.permittedChains := by
  refine (List.perm_ext_iff_of_nodup v.joined.nodup_permittedChains v.nodup_permittedChains).2 fun n => ?_
  rw [mem_permittedChains_iff, mem_permittedChains_iff, contains_joined]

/-- **Grants add what they grant, and sessions follow.** On each side a merged value grants under every name what either
value does; of a property the later value counts; nothing is the unit of grants, which may be grouped in any way. The
session has the scopes of both sides, the accounts and chains that are read from it are those of the value, and the
session of a merged value grants what the sessions grant together. -/
theorem session_of_grants :
    (∀ l r : CaveatValue,
      (l.merge r).required.IsUnion l.required r.required ∧ (l.merge r).optional.IsUnion l.optional r.optional ∧
      (∀ key, (l.merge r).sessionProperties.get? key =
        (r.sessionProperties.get? key).or (l.sessionProperties.get? key)) ∧
      (l.merge r).session.capabilities = (l.session.merge r.session).capabilities) ∧
    (∀ a b c : CaveatValue, (a.merge b).merge c = a.merge (b.merge c)) ∧
    ∀ v : CaveatValue,
      v.merge empty = v ∧ empty.merge v = v ∧
      (∀ name, v.contains name = true ↔ v.session.contains name = true) ∧
      v.joined.ethAccounts.Perm v.ethAccounts ∧ v.joined.permittedChains.Perm v.permittedChains := by
  refine ⟨fun l r => ⟨?_, ?_, ?_, ?_⟩, merge_assoc, fun v => ⟨merge_empty v, empty_merge v, fun name => ?_, ?_, ?_⟩⟩
  · exact ScopeMap.isUnion_merge l.required r.required
  · exact ScopeMap.isUnion_merge l.optional r.optional
  · exact KeyMap.get?_override l.sessionProperties r.sessionProperties
  · exact capabilities_session_merge l r
  · rw [contains_session]
  · exact ethAccounts_joined_perm v
  · exact permittedChains_joined_perm v

end CaveatValue
end WalletSession
