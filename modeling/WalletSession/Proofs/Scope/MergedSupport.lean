import Mathlib.Order.Bounds.Basic
import WalletSession.Caveat.Value
import WalletSession.Proofs.Scope.Buckets
import WalletSession.Proofs.Scope.Merge

set_option autoImplicit false

/-! # Support of merged scopes

Merging loses nothing that is asked for and adds nothing to it. So a merged scope object is supported if its parts are,
and is refused for what would have been reported first otherwise (`ScopeObject.refusedWith_merge_iff`). What a session
grants is merged from two sides, and is as supported as they are (`CaveatValue.session_supported_as_sides`). -/

namespace WalletSession

/-! ## Merged scope objects -/

namespace ScopeObject

variable {support : ChainSupport} {serves : ChainNumber → Bool} {name : String} {a b o : ScopeObject} {code : Int}

theorem allSupported_merge_iff : (a.merge b).AllSupported name ↔ a.AllSupported name ∧ b.AllSupported name := by
  constructor
  · intro h
    obtain ⟨ha, hb⟩ := forall_mem_distinctUnion.1 h.methods
    obtain ⟨ha', hb'⟩ := forall_mem_distinctUnion.1 h.notifications
    exact ⟨⟨ha, ha'⟩, ⟨hb, hb'⟩⟩
  · rintro ⟨ha, hb⟩
    constructor
    · exact forall_mem_distinctUnion.2 ⟨ha.methods, hb.methods⟩
    · exact forall_mem_distinctUnion.2 ⟨ha.notifications, hb.notifications⟩

theorem refusal?_merge_eq_none_iff : (a.merge b).refusal? serves name = none ↔
    a.refusal? serves name = none ∧ b.refusal? serves name = none := by
  simp only [refusal?_eq_none_iff, allSupported_merge_iff]
  tauto

/-- The codes that one of two scope objects is refused with. -/
def refusalCodes (serves : ChainNumber → Bool) (name : String) (a b : ScopeObject) : Set Int :=
  {code | a.RefusedWith serves name code ∨ b.RefusedWith serves name code}

theorem RefusedWith.chain_le (h : o.RefusedWith serves name code) : 5100 ≤ code := by
  cases h <;> decide

theorem RefusedWith.method_le (h : o.RefusedWith serves name code) (hname : isSupportedScope serves name = true) :
    5101 ≤ code := by
  cases h with
  | chain hrefused => simp [hname] at hrefused
  | method => decide
  | notification => decide

theorem RefusedWith.notification_le (h : o.RefusedWith serves name code) (hname : isSupportedScope serves name = true)
    (hmethods : ∀ method ∈ o.methods, isSupportedMethod name method = true) : 5102 ≤ code := by
  cases h with
  | chain hrefused => simp [hname] at hrefused
  | method _ hmem hrefused => simp [hmethods _ hmem] at hrefused
  | notification => decide

/-- What is wrong with the merged scope object is wrong with a part of it, and nothing before that is with any. -/
theorem RefusedWith.isLeast (h : (a.merge b).RefusedWith serves name code) :
    IsLeast (refusalCodes serves name a b) code := by
  cases h with
  | chain hname =>
    refine ⟨.inl (.chain hname), ?_⟩
    rintro other (hother | hother)
    · exact hother.chain_le
    · exact hother.chain_le
  | method hname hmem hmethod =>
    refine ⟨(mem_distinctUnion.1 hmem).imp (.method hname · hmethod) (.method hname · hmethod), ?_⟩
    rintro other (hother | hother)
    · exact hother.method_le hname
    · exact hother.method_le hname
  | notification hname hmethods hmem hnotification =>
    obtain ⟨ha, hb⟩ := forall_mem_distinctUnion.1 hmethods
    refine ⟨(mem_distinctUnion.1 hmem).imp (.notification hname ha · hnotification)
      (.notification hname hb · hnotification), ?_⟩
    rintro other (hother | hother)
    · exact hother.notification_le hname ha
    · exact hother.notification_le hname hb

/-- **A merged scope object is refused with the smallest code of its parts.** -/
theorem refusedWith_merge_iff :
    (a.merge b).RefusedWith serves name code ↔ IsLeast (refusalCodes serves name a b) code := by
  refine ⟨RefusedWith.isLeast, fun hleast => ?_⟩
  have hrefused : ∃ other, (a.merge b).RefusedWith serves name other := by
    rw [exists_refusedWith_iff, allSupported_merge_iff]
    rintro ⟨hname, ha, hb⟩
    rcases hleast.1 with h | h
    · exact exists_refusedWith_iff.1 ⟨code, h⟩ ⟨hname, ha⟩
    · exact exists_refusedWith_iff.1 ⟨code, h⟩ ⟨hname, hb⟩
  obtain ⟨other, hother⟩ := hrefused
  rwa [hleast.unique hother.isLeast]

theorem hasLevel_supported_merge_iff : (a.merge b).HasLevel support name .supported ↔
    a.HasLevel support name .supported ∧ b.HasLevel support name .supported := by
  simp only [hasLevel_supported_iff, refusal?_merge_eq_none_iff]

theorem hasLevel_supportable_merge_iff : (a.merge b).HasLevel support name .supportable ↔
    a.HasLevel support name .supportable ∧ b.HasLevel support name .supportable := by
  simp only [hasLevel_supportable_iff, allSupported_merge_iff]
  tauto

end ScopeObject

/-! ## Merged scope maps -/

namespace ScopeMap

variable {support : ChainSupport} {level : SupportLevel} {serves : ChainNumber → Bool} {name : String}
  {a b m : ScopeMap}

theorem refusal?_merge_eq_none_iff :
    (a.merge b).refusal? serves = none ↔ a.refusal? serves = none ∧ b.refusal? serves = none := by
  rw [refusal?_eq_none_iff, refusal?_eq_none_iff, refusal?_eq_none_iff, ← forall_and]
  exact forall_congr' fun name => forall_get?_merge_iff fun _ _ => ScopeObject.refusal?_merge_eq_none_iff

theorem contains_scopesAt_iff : ((m.buckets support).scopesAt level).contains name = true ↔
    ∃ o, m.get? name = some o ∧ o.HasLevel support name level := by
  simp only [KeyMap.contains_iff_exists, get?_scopesAt_buckets]

/-- If a map has a scope at all, it has it at the level of its object. -/
theorem contains_scopesAt_of_contains_iff :
    (m.contains name = true → ((m.buckets support).scopesAt level).contains name = true) ↔
      ∀ o, m.get? name = some o → o.HasLevel support name level := by
  rw [contains_scopesAt_iff, KeyMap.contains]
  cases m.get? name <;> simp

end ScopeMap

/-! ## Sessions -/

/-- **What a session grants is as supported as its sides are.** A merged scope object passes the check if both parts do,
and fails with the smallest of their codes otherwise. So the scopes of a session pass if those on both sides do, and a
scope of a session is supported, or supportable, if it is so on each side that has it. -/
theorem CaveatValue.session_supported_as_sides :
    (∀ (serves : ChainNumber → Bool) (name : String) (a b : ScopeObject),
      ((a.merge b).refusal? serves name = none ↔ a.refusal? serves name = none ∧ b.refusal? serves name = none) ∧
      ∀ code, (a.merge b).errorCode? serves name = some code ↔
        IsLeast {c | a.errorCode? serves name = some c ∨ b.errorCode? serves name = some c} code) ∧
    ∀ v : CaveatValue,
      (∀ serves, v.session.refusal? serves = none ↔
        v.required.refusal? serves = none ∧ v.optional.refusal? serves = none) ∧
      ∀ support, ∀ level ∈ [SupportLevel.supported, .supportable], ∀ name, v.session.contains name = true →
        (((v.session.buckets support).scopesAt level).contains name = true ↔
          ∀ side ∈ [v.required, v.optional], side.contains name = true →
            ((side.buckets support).scopesAt level).contains name = true) := by
  refine ⟨fun serves name a b => ⟨ScopeObject.refusal?_merge_eq_none_iff, fun code => ?_⟩, fun v => ?_⟩
  · simp only [ScopeObject.errorCode?_eq_some_iff]
    exact ScopeObject.refusedWith_merge_iff
  refine ⟨fun serves => ScopeMap.refusal?_merge_eq_none_iff, fun support level hlevel name hname => ?_⟩
  have hmerge (a b : ScopeObject) : (a.merge b).HasLevel support name level ↔
      a.HasLevel support name level ∧ b.HasLevel support name level := by
    simp only [List.mem_cons, List.not_mem_nil, or_false] at hlevel
    rcases hlevel with rfl | rfl
    · exact ScopeObject.hasLevel_supported_merge_iff
    · exact ScopeObject.hasLevel_supportable_merge_iff
  calc ((v.session.buckets support).scopesAt level).contains name = true
    _ ↔ (v.session.contains name = true → ((v.session.buckets support).scopesAt level).contains name = true) :=
      ⟨fun h _ => h, fun h => h hname⟩
    _ ↔ ∀ o, v.session.get? name = some o → o.HasLevel support name level := ScopeMap.contains_scopesAt_of_contains_iff
    _ ↔ (∀ o, v.required.get? name = some o → o.HasLevel support name level) ∧
        ∀ o, v.optional.get? name = some o → o.HasLevel support name level := ScopeMap.forall_get?_merge_iff hmerge
    _ ↔ ∀ side ∈ [v.required, v.optional], side.contains name = true →
          ((side.buckets support).scopesAt level).contains name = true := by
      simp [← ScopeMap.contains_scopesAt_of_contains_iff]

end WalletSession
