import WalletSession.ScopeName

set_option autoImplicit false

/-! # Namespaces and their chains

A text names a namespace or a chain, never both, since only a chain has a colon. The namespace of a chain is
itself a scope name, and it comes before all its chains in the order of texts (`ScopeName.ns_lt`). -/

namespace WalletSession

theorem toList_text (c : ChainId) : c.text.toList = c.ns.toList ++ ':' :: c.reference.toList := by
  simp [ChainId.text]

theorem colon_not_mem_of_isNamespace {s : String} (h : isNamespace s = true) : ':' ∉ s.toList := by
  intro hmem
  simp only [isNamespace, isWordOf, Bool.and_eq_true, List.all_eq_true] at h
  exact absurd (h.2 ':' hmem) (by decide)

/-- What a text has to be like to name a chain. -/
theorem ChainId.parse?_eq_some_iff {s : String} {c : ChainId} :
    ChainId.parse? s = some c ↔ s = c.text ∧ isNamespace c.ns = true ∧ isReference c.reference = true := by
  constructor
  · intro h
    refine ⟨(ChainId.text_eq_of_parse? h).symm, ?_⟩
    unfold ChainId.parse? at h
    split at h
    · next ns reference hsplit =>
      split at h
      · next hwords =>
        cases h
        simpa [isNamespace, isReference] using hwords
      · cases h
    · cases h
  · rintro ⟨rfl, hns, href⟩
    have hsplit : Text.splitFirst ':' c.text.toList = some (c.ns.toList, c.reference.toList) :=
      Text.splitFirst_eq_some_iff.2 ⟨toList_text c, colon_not_mem_of_isNamespace hns⟩
    have hwords : (isWordOf isNamespaceChar 3 8 c.ns.toList && isWordOf isReferenceChar 1 32 c.reference.toList) =
        true := by
      rw [Bool.and_eq_true]
      exact ⟨hns, href⟩
    unfold ChainId.parse?
    rw [hsplit]
    simp [hwords]

namespace ScopeName

theorem parse_eq_bare_iff {s ns : String} : parse s = .bare ns ↔ s = ns ∧ isNamespace s = true := by
  unfold parse
  split
  · next h => simp [h]
  · next h =>
    cases ChainId.parse? s <;> simp [h]

theorem parse_eq_chain_iff {s : String} {c : ChainId} : parse s = .chain c ↔ ChainId.parse? s = some c := by
  unfold parse
  split
  · next h =>
    have hno : ChainId.parse? s ≠ some c := by
      intro hc
      obtain ⟨rfl, -, -⟩ := ChainId.parse?_eq_some_iff.1 hc
      exact colon_not_mem_of_isNamespace h (by simp [toList_text])
    simp [hno]
  · cases ChainId.parse? s <;> simp

theorem isBare_iff {s : String} : (parse s).isBare = true ↔ parse s = .bare s := by
  cases h : parse s with
  | bare ns =>
    obtain ⟨rfl, -⟩ := parse_eq_bare_iff.1 h
    simp [isBare]
  | chain c => simp [isBare]
  | unrecognized => simp [isBare]

/-- The namespace of a chain is a scope name of its own. -/
theorem parse_ns {s : String} {c : ChainId} (h : parse s = .chain c) : parse c.ns = .bare c.ns :=
  parse_eq_bare_iff.2 ⟨rfl, (ChainId.parse?_eq_some_iff.1 (parse_eq_chain_iff.1 h)).2.1⟩

/-- The namespace of a chain comes before the chain. -/
theorem ns_lt {s : String} {c : ChainId} (h : parse s = .chain c) : c.ns < s := by
  obtain ⟨rfl, -, -⟩ := ChainId.parse?_eq_some_iff.1 (parse_eq_chain_iff.1 h)
  rw [String.lt_iff, toList_text]
  have hne : c.ns.toList ≠ c.ns.toList ++ ':' :: c.reference.toList := by simp
  refine (List.le_iff_lt_or_eq.1 ?_).resolve_right hne
  exact List.IsPrefix.le (List.prefix_append _ _)

end ScopeName
end WalletSession
