import Mathlib.Logic.ExistsUnique
import Mathlib.Tactic.Tauto
import WalletSession.Proofs.Scope.Support
import WalletSession.Scope.Buckets

set_option autoImplicit false

/-! # Which bucket a scope is in

The buckets come from two checks in a row, by what a wallet serves and by what it could serve. Between the two only
the verdict on the name of a chain can change (`ChainSupport.couldServe_iff`), so the second bucket holds the scopes of
chains that could be served, and of these the ones that ask for nothing unsupported. Every scope is in one bucket
(`ScopeMap.buckets_partition`). -/

namespace WalletSession

/-- A scope is named by a chain that is not served but could be. -/
def ChainSupport.CouldServe (support : ChainSupport) (name : String) : Prop :=
  ∃ n : ChainNumber, name = "eip155:" ++ Nat.repr n.toNat ∧ support.supported n = false ∧ support.supportable n = true

/-- What can be done with a scope. -/
inductive SupportLevel where
  | supported
  | supportable
  | unsupported

/-- The scopes in one bucket. -/
def ScopeBuckets.scopesAt (b : ScopeBuckets) : SupportLevel → ScopeMap
  | .supported => b.supported
  | .supportable => b.supportable
  | .unsupported => b.unsupported

/-- What can be done with a scope object under a scope name. -/
inductive ScopeObject.HasLevel (support : ChainSupport) (name : String) (o : ScopeObject) : SupportLevel → Prop where
  | supported (hserved : o.refusal? support.supported name = none) : HasLevel support name o .supported
  | supportable (hname : support.CouldServe name) (hall : o.AllSupported name) : HasLevel support name o .supportable
  | unsupported (hrefused : o.refusal? support.supported name ≠ none)
      (hnot : ¬ (support.CouldServe name ∧ o.AllSupported name)) : HasLevel support name o .unsupported

variable {support : ChainSupport} {name : String} {o : ScopeObject} {level : SupportLevel}

/-! ## Names of chains that could be served -/

namespace ChainSupport

theorem CouldServe.exists_number (h : support.CouldServe name) : ∃ n, (ScopeName.parse name).eip155? = some n ∧
    support.supported n = false ∧ support.supportable n = true := by
  obtain ⟨n, rfl, hn⟩ := h
  refine ⟨n, ?_, hn⟩
  rw [ScopeName.eip155?_eq_some_iff, Eip155.text_chainId]

/-- Only the name of a chain can be unsupported by what is served and supported by what could be. -/
theorem couldServe_iff : support.CouldServe name ↔
    isSupportedScope support.supported name = false ∧ isSupportedScope support.supportable name = true := by
  constructor
  · intro h
    obtain ⟨n, hn, hsupport⟩ := h.exists_number
    rwa [isSupportedScope_of_number hn, isSupportedScope_of_number hn]
  · rintro ⟨hsupported, hsupportable⟩
    cases hn : (ScopeName.parse name).eip155? with
    | none =>
      rw [isSupportedScope_congr hn support.supported support.supportable, hsupportable] at hsupported
      cases hsupported
    | some n =>
      rw [isSupportedScope_of_number hn] at hsupported hsupportable
      refine ⟨n, ?_, hsupported, hsupportable⟩
      rw [← Eip155.text_chainId, ← ScopeName.eip155?_eq_some_iff, hn]

theorem not_couldServe_of_none (hnone : (ScopeName.parse name).eip155? = none) : ¬ support.CouldServe name := by
  intro h
  obtain ⟨n, hn, -⟩ := h.exists_number
  rw [hnone] at hn
  cases hn

theorem not_couldServe_namespace (hname : isNamespace name = true) : ¬ support.CouldServe name := by
  refine not_couldServe_of_none ?_
  rw [ScopeName.parse_eq_bare_iff.2 ⟨rfl, hname⟩]
  rfl

theorem not_couldServe_walletEip155 : ¬ support.CouldServe "wallet:eip155" :=
  not_couldServe_of_none (by decide)

end ChainSupport

/-! ## Levels -/

namespace ScopeObject

/-- The second check lets pass what the first one refused if only the name was to blame, and the chain could be
served. -/
theorem refused_then_passed_iff :
    o.refusal? support.supported name ≠ none ∧ o.refusal? support.supportable name = none ↔
      support.CouldServe name ∧ o.AllSupported name := by
  rw [ne_eq, refusal?_eq_none_iff, refusal?_eq_none_iff, ChainSupport.couldServe_iff, ← Bool.not_eq_true]
  tauto

theorem hasLevel_supported_iff : o.HasLevel support name .supported ↔ o.refusal? support.supported name = none :=
  ⟨fun h => by cases h; assumption, .supported⟩

theorem hasLevel_supportable_iff :
    o.HasLevel support name .supportable ↔ support.CouldServe name ∧ o.AllSupported name :=
  ⟨fun h => by cases h; exact ⟨‹_›, ‹_›⟩, fun h => .supportable h.1 h.2⟩

theorem hasLevel_unsupported_iff : o.HasLevel support name .unsupported ↔
    o.refusal? support.supported name ≠ none ∧ o.refusal? support.supportable name ≠ none := by
  constructor
  · rintro (_ | _ | ⟨hrefused, hnot⟩)
    exact ⟨hrefused, fun hpassed => hnot (refused_then_passed_iff.1 ⟨hrefused, hpassed⟩)⟩
  · rintro ⟨hrefused, hagain⟩
    exact .unsupported hrefused fun hcould => hagain (refused_then_passed_iff.2 hcould).2

/-- Every scope object has one level. -/
theorem existsUnique_hasLevel (support : ChainSupport) (name : String) (o : ScopeObject) :
    ∃! level, o.HasLevel support name level := by
  by_cases hserved : o.refusal? support.supported name = none
  · refine ⟨.supported, .supported hserved, ?_⟩
    rintro _ (_ | ⟨hname, hall⟩ | ⟨hrefused, -⟩)
    · rfl
    · exact absurd hserved (refused_then_passed_iff.2 ⟨hname, hall⟩).1
    · exact absurd hserved hrefused
  by_cases hcould : support.CouldServe name ∧ o.AllSupported name
  · refine ⟨.supportable, .supportable hcould.1 hcould.2, ?_⟩
    rintro _ (hserved' | _ | ⟨-, hnot⟩)
    · exact absurd hserved' hserved
    · rfl
    · exact absurd hcould hnot
  · refine ⟨.unsupported, .unsupported hserved hcould, ?_⟩
    rintro _ (hserved' | ⟨hname, hall⟩ | _)
    · exact absurd hserved' hserved
    · exact absurd ⟨hname, hall⟩ hcould
    · rfl

end ScopeObject

/-! ## Buckets -/

namespace ScopeMap

theorem get?_supportedBy_eq_some_iff {serves : ChainNumber → Bool} {m : ScopeMap} :
    (m.supportedBy serves).get? name = some o ↔ m.get? name = some o ∧ o.refusal? serves name = none := by
  rw [get?_supportedBy, Option.filter_eq_some_iff, Option.isNone_iff_eq_none]

theorem get?_refusedBy_eq_some_iff {serves : ChainNumber → Bool} {m : ScopeMap} :
    (m.refusedBy serves).get? name = some o ↔ m.get? name = some o ∧ o.refusal? serves name ≠ none := by
  rw [get?_refusedBy, Option.filter_eq_some_iff, Option.isSome_iff_ne_none]

theorem get?_scopesAt_buckets (support : ChainSupport) (m : ScopeMap) (level : SupportLevel) (name : String)
    (o : ScopeObject) : ((m.buckets support).scopesAt level).get? name = some o ↔
      m.get? name = some o ∧ o.HasLevel support name level := by
  cases level with
  | supported =>
    show (m.supportedBy support.supported).get? name = some o ↔ _
    rw [get?_supportedBy_eq_some_iff, ScopeObject.hasLevel_supported_iff]
  | supportable =>
    show ((m.refusedBy support.supported).supportedBy support.supportable).get? name = some o ↔ _
    rw [get?_supportedBy_eq_some_iff, get?_refusedBy_eq_some_iff, and_assoc, ScopeObject.refused_then_passed_iff,
      ScopeObject.hasLevel_supportable_iff]
  | unsupported =>
    show ((m.refusedBy support.supported).refusedBy support.supportable).get? name = some o ↔ _
    rw [get?_refusedBy_eq_some_iff, get?_refusedBy_eq_some_iff, and_assoc, ScopeObject.hasLevel_unsupported_iff]

/-- **The buckets partition the scopes.** Every scope is in one bucket, with its object as it is, and there is nothing
else in them. Which bucket it is in depends on the chains that are served and on those that could be; but no namespace
and not `wallet:eip155` is ever supportable, and a scope that asks for something unsupported is unsupported whatever
chains there are. -/
theorem buckets_partition (support : ChainSupport) (m : ScopeMap) :
    (∀ name o, m.get? name = some o → ∃! level, ((m.buckets support).scopesAt level).get? name = some o) ∧
    (∀ level name o, ((m.buckets support).scopesAt level).get? name = some o ↔
      m.get? name = some o ∧ o.HasLevel support name level) ∧
    (∀ name, isNamespace name = true ∨ name = "wallet:eip155" → (m.buckets support).supportable.get? name = none) ∧
    ∀ name o, m.get? name = some o → ¬ o.AllSupported name → (m.buckets support).unsupported.get? name = some o := by
  have hget := get?_scopesAt_buckets support m
  refine ⟨fun name o ho => ?_, hget, fun name hname => ?_, fun name o ho hnot => ?_⟩
  · simp only [hget, ho, true_and]
    exact ScopeObject.existsUnique_hasLevel support name o
  · have hcannot : ¬ support.CouldServe name := by
      rcases hname with hns | rfl
      · exact ChainSupport.not_couldServe_namespace hns
      · exact ChainSupport.not_couldServe_walletEip155
    rw [Option.eq_none_iff_forall_ne_some]
    intro o ho
    have hlevel := ((hget .supportable name o).1 ho).2
    exact hcannot (ScopeObject.hasLevel_supportable_iff.1 hlevel).1
  · refine (hget .unsupported name o).2 ⟨ho, .unsupported ?_ fun h => hnot h.2⟩
    rw [ne_eq, ScopeObject.refusal?_eq_none_iff]
    exact fun h => hnot h.2

end ScopeMap
end WalletSession
