import WalletSession.AccountId
import WalletSession.Proofs.ScopeName

set_option autoImplicit false

/-! # The grammar of identifiers

Chain ids, account ids and namespaces are words over small alphabets, joined by colons. No alphabet has the colon, so
a text is put together in one way only: reading an identifier accepts what the grammar spells and gives back
its parts (`identifiers_follow_grammar`), and no text is of two kinds (`kinds_exclusive`). -/

namespace WalletSession

/-! ## Words -/

/-- A text of `least` to `most` characters, all of them in a class. -/
def IsWord (ofClass : Char → Prop) (least most : Nat) (s : String) : Prop :=
  least ≤ s.length ∧ s.length ≤ most ∧ ∀ c ∈ s.toList, ofClass c

/-- Three to eight of `-`, `a` to `z` and `0` to `9`. -/
def NamespaceWord : String → Prop :=
  IsWord (fun c => c = '-' ∨ ('a' ≤ c ∧ c ≤ 'z') ∨ ('0' ≤ c ∧ c ≤ '9')) 3 8

/-- One to thirty-two of `-`, `_`, letters and digits. -/
def ReferenceWord : String → Prop :=
  IsWord (fun c => c = '-' ∨ c = '_' ∨ ('a' ≤ c ∧ c ≤ 'z') ∨ ('A' ≤ c ∧ c ≤ 'Z') ∨ ('0' ≤ c ∧ c ≤ '9')) 1 32

/-- One to a hundred and twenty-eight of `-`, `.`, `%`, letters and digits. -/
def AddressWord : String → Prop :=
  IsWord (fun c => c = '-' ∨ c = '.' ∨ c = '%' ∨
    ('a' ≤ c ∧ c ≤ 'z') ∨ ('A' ≤ c ∧ c ≤ 'Z') ∨ ('0' ≤ c ∧ c ≤ '9')) 1 128

theorem isWordOf_iff {test : Char → Bool} {ofClass : Char → Prop} (h : ∀ c, test c = true ↔ ofClass c)
    (least most : Nat) (s : String) : isWordOf test least most s.toList = true ↔ IsWord ofClass least most s := by
  simp only [isWordOf, IsWord, Bool.and_eq_true, decide_eq_true_eq, List.all_eq_true, h, String.length_toList,
    and_assoc]

theorem isNamespace_iff (s : String) : isNamespace s = true ↔ NamespaceWord s :=
  isWordOf_iff (fun c => by simp [isNamespaceChar, isAsciiLower, isAsciiDigit, or_assoc]) 3 8 s

theorem isReference_iff (s : String) : isReference s = true ↔ ReferenceWord s :=
  isWordOf_iff (fun c => by simp [isReferenceChar, isAsciiLetter, isAsciiLower, isAsciiDigit, or_assoc]) 1 32 s

theorem isWordOf_isAddressChar_iff (s : String) :
    isWordOf isAddressChar 1 128 s.toList = true ↔ AddressWord s :=
  isWordOf_iff (fun c => by simp [isAddressChar, isAsciiLetter, isAsciiLower, isAsciiDigit, or_assoc]) 1 128 s

theorem IsWord.colon_not_mem {ofClass : Char → Prop} {least most : Nat} {s : String}
    (h : IsWord ofClass least most s) (hcolon : ¬ ofClass ':') : ':' ∉ s.toList :=
  fun hmem => hcolon (h.2.2 ':' hmem)

theorem NamespaceWord.colon_not_mem {s : String} (h : NamespaceWord s) : ':' ∉ s.toList :=
  IsWord.colon_not_mem h (by decide)

theorem ReferenceWord.colon_not_mem {s : String} (h : ReferenceWord s) : ':' ∉ s.toList :=
  IsWord.colon_not_mem h (by decide)

theorem AddressWord.colon_not_mem {s : String} (h : AddressWord s) : ':' ∉ s.toList :=
  IsWord.colon_not_mem h (by decide)

/-! ## Chain ids -/

/-- `s` is a namespace and a reference, those of the chain id, joined by a colon. -/
structure ChainId.SpelledBy (c : ChainId) (s : String) : Prop where
  ns : NamespaceWord c.ns
  reference : ReferenceWord c.reference
  spelling : s = c.ns ++ ":" ++ c.reference

namespace ChainId

variable {s : String} {c : ChainId}

theorem parse_eq_ok_iff_parse? : parse s = .ok c ↔ parse? s = some c := by
  unfold parse
  cases parse? s <;> simp

theorem parse_eq_ok_iff : parse s = .ok c ↔ c.SpelledBy s := by
  rw [parse_eq_ok_iff_parse?, parse?_eq_some_iff, isNamespace_iff, isReference_iff]
  constructor
  · rintro ⟨hs, hns, href⟩
    exact ⟨hns, href, hs⟩
  · rintro ⟨hns, href, hs⟩
    exact ⟨hs, hns, href⟩

theorem SpelledBy.count_colon (h : c.SpelledBy s) : s.toList.count ':' = 1 := by
  have hns := List.count_eq_zero.2 h.ns.colon_not_mem
  have href := List.count_eq_zero.2 h.reference.colon_not_mem
  simp [h.spelling, hns, href]

end ChainId

/-! ## Account ids -/

/-- `s` is a namespace, a reference and an address, those of the account id, joined by colons. -/
structure AccountId.SpelledBy (a : AccountId) (s : String) : Prop where
  ns : NamespaceWord a.chain.ns
  reference : ReferenceWord a.chain.reference
  address : AddressWord a.address
  spelling : s = a.chain.ns ++ ":" ++ a.chain.reference ++ ":" ++ a.address

namespace AccountId

variable {s : String} {a : AccountId}

theorem toList_text (a : AccountId) :
    a.text.toList = a.chain.ns.toList ++ ':' :: (a.chain.reference.toList ++ ':' :: a.address.toList) := by
  simp [text, WalletSession.toList_text]

/-- What a text has to be like to name an account. -/
theorem parse?_eq_some_iff : parse? s = some a ↔ s = a.text ∧ isNamespace a.chain.ns = true ∧
    isReference a.chain.reference = true ∧ isWordOf isAddressChar 1 128 a.address.toList = true := by
  constructor
  · intro h
    unfold parse? at h
    split at h
    · next ns rest hfirst =>
      split at h
      · next reference address hsecond =>
        split at h
        · next hwords =>
          cases h
          have hs : s.toList = ns ++ ':' :: (reference ++ ':' :: address) := by
            rw [(Text.splitFirst_eq_some_iff.1 hfirst).1, (Text.splitFirst_eq_some_iff.1 hsecond).1]
          refine ⟨?_, by simpa [isNamespace, isReference, and_assoc] using hwords⟩
          rw [← String.toList_inj, toList_text, hs]
          simp
        · cases h
      · cases h
    · cases h
  · rintro ⟨rfl, hns, href, haddress⟩
    have hfirst := Text.splitFirst_eq_some_iff.2 ⟨toList_text a, colon_not_mem_of_isNamespace hns⟩
    have hsecond : Text.splitFirst ':' (a.chain.reference.toList ++ ':' :: a.address.toList) =
        some (a.chain.reference.toList, a.address.toList) :=
      Text.splitFirst_eq_some_iff.2 ⟨rfl, ReferenceWord.colon_not_mem ((isReference_iff _).1 href)⟩
    rw [isNamespace] at hns
    rw [isReference] at href
    simp only [parse?, hfirst, hsecond, hns, href, haddress, Bool.and_self, if_true, String.ofList_toList]

theorem parse_eq_ok_iff_parse? : parse s = .ok a ↔ parse? s = some a := by
  unfold parse
  cases parse? s <;> simp

theorem parse_eq_ok_iff : parse s = .ok a ↔ a.SpelledBy s := by
  rw [parse_eq_ok_iff_parse?, parse?_eq_some_iff, isNamespace_iff, isReference_iff, isWordOf_isAddressChar_iff]
  constructor
  · rintro ⟨hs, hns, href, haddress⟩
    exact ⟨hns, href, haddress, hs⟩
  · rintro ⟨hns, href, haddress, hs⟩
    exact ⟨hs, hns, href, haddress⟩

theorem SpelledBy.count_colon (h : a.SpelledBy s) : s.toList.count ':' = 2 := by
  have hns := List.count_eq_zero.2 h.ns.colon_not_mem
  have href := List.count_eq_zero.2 h.reference.colon_not_mem
  have haddress := List.count_eq_zero.2 h.address.colon_not_mem
  simp [h.spelling, hns, href, haddress]

end AccountId

/-! ## Scope names -/

namespace ScopeName

theorem parse_eq_bare_iff_word {s ns : String} : parse s = .bare ns ↔ s = ns ∧ NamespaceWord s := by
  rw [parse_eq_bare_iff, isNamespace_iff]

theorem parse_eq_chain_iff_spelledBy {s : String} {c : ChainId} : parse s = .chain c ↔ c.SpelledBy s := by
  rw [parse_eq_chain_iff, ← ChainId.parse_eq_ok_iff_parse?, ChainId.parse_eq_ok_iff]

theorem parts_chain_iff {s ns reference : String} :
    (parse s).ns? = some ns ∧ (parse s).reference? = some reference ↔ ChainId.parse s = .ok ⟨ns, reference⟩ := by
  rw [ChainId.parse_eq_ok_iff_parse?, ← parse_eq_chain_iff]
  cases parse s with
  | bare => simp [reference?]
  | chain c =>
    obtain ⟨ns', reference'⟩ := c
    simp [ns?, reference?]
  | unrecognized => simp [ns?]

theorem parts_namespace_iff {s ns : String} :
    (parse s).ns? = some ns ∧ (parse s).reference? = none ↔ ns = s ∧ NamespaceWord s := by
  rw [@eq_comm String ns, ← parse_eq_bare_iff_word]
  cases parse s <;> simp [ns?, reference?]

theorem parts_none_iff {s : String} :
    (parse s).ns? = none ∧ (parse s).reference? = none ↔ ¬ NamespaceWord s ∧ ¬ ∃ c, ChainId.parse s = .ok c := by
  simp only [ChainId.parse_eq_ok_iff, ← parse_eq_chain_iff_spelledBy]
  cases h : parse s with
  | bare ns => simp [ns?, (parse_eq_bare_iff_word.1 h).2]
  | chain c => simp [ns?]
  | unrecognized =>
    have hno : ¬ NamespaceWord s := fun hs => by simp [parse_eq_bare_iff_word.2 ⟨rfl, hs⟩] at h
    simp [ns?, reference?, hno]

end ScopeName

/-! ## No text is of two kinds -/

/-- A namespace has no colon, a chain id has one and an account id has two. -/
theorem kinds_exclusive (s : String) : [isNamespace s, ChainId.isValid s, AccountId.isValid s].count true ≤ 1 := by
  have hns (h : isNamespace s = true) : s.toList.count ':' = 0 :=
    List.count_eq_zero.2 ((isNamespace_iff s).1 h).colon_not_mem
  have hchain (h : ChainId.isValid s = true) : s.toList.count ':' = 1 := by
    obtain ⟨c, hc⟩ := Option.isSome_iff_exists.1 h
    exact (ChainId.parse_eq_ok_iff.1 (ChainId.parse_eq_ok_iff_parse?.2 hc)).count_colon
  have haccount (h : AccountId.isValid s = true) : s.toList.count ':' = 2 := by
    obtain ⟨a, ha⟩ := Option.isSome_iff_exists.1 h
    exact (AccountId.parse_eq_ok_iff.1 (AccountId.parse_eq_ok_iff_parse?.2 ha)).count_colon
  generalize isNamespace s = a at *
  generalize ChainId.isValid s = b at *
  generalize AccountId.isValid s = c at *
  cases a <;> cases b <;> cases c <;> simp_all

/-- **Identifiers are read exactly as the grammar spells them**, each in one way, and written as they were read. -/
theorem identifiers_follow_grammar (s : String) :
    ((∃ c, ChainId.parse s = .ok c) ↔ ∃ c : ChainId, c.SpelledBy s) ∧
    (∀ c, ChainId.parse s = .ok c → c.text = s ∧ ∀ c' : ChainId, c'.SpelledBy s ↔ c' = c) ∧
    ((∃ a, AccountId.parse s = .ok a) ↔ ∃ a : AccountId, a.SpelledBy s) ∧
    (∀ a, AccountId.parse s = .ok a → a.text = s ∧ ∀ a' : AccountId, a'.SpelledBy s ↔ a' = a) ∧
    (∀ ns reference, (ScopeName.parse s).ns? = some ns ∧ (ScopeName.parse s).reference? = some reference ↔
      ChainId.parse s = .ok ⟨ns, reference⟩) ∧
    (∀ ns, (ScopeName.parse s).ns? = some ns ∧ (ScopeName.parse s).reference? = none ↔ ns = s ∧ NamespaceWord s) ∧
    ((ScopeName.parse s).ns? = none ∧ (ScopeName.parse s).reference? = none ↔
      ¬ NamespaceWord s ∧ ¬ ∃ c, ChainId.parse s = .ok c) ∧
    (isNamespace s = true ↔ NamespaceWord s) ∧
    [isNamespace s, ChainId.isValid s, AccountId.isValid s].count true ≤ 1 ∧
    (∀ c : ChainId, NamespaceWord c.ns → ReferenceWord c.reference → ChainId.parse c.text = .ok c) ∧
    ∀ a : AccountId, NamespaceWord a.chain.ns → ReferenceWord a.chain.reference → AddressWord a.address →
      AccountId.parse a.text = .ok a := by
  have hchain (s : String) (c : ChainId) : ChainId.parse s = .ok c ↔ c.SpelledBy s := ChainId.parse_eq_ok_iff
  have haccount (s : String) (a : AccountId) : AccountId.parse s = .ok a ↔ a.SpelledBy s :=
    AccountId.parse_eq_ok_iff
  refine ⟨exists_congr (hchain s), fun c hc => ⟨((hchain s c).1 hc).spelling.symm, fun c' => ?_⟩,
    exists_congr (haccount s), fun a ha => ⟨((haccount s a).1 ha).spelling.symm, fun a' => ?_⟩,
    fun _ _ => ScopeName.parts_chain_iff, fun _ => ScopeName.parts_namespace_iff, ScopeName.parts_none_iff,
    isNamespace_iff s, kinds_exclusive s, fun c hns href => (hchain _ c).2 ⟨hns, href, rfl⟩,
    fun a hns href haddress => (haccount _ a).2 ⟨hns, href, haddress, rfl⟩⟩
  -- A text is read as one identifier only.
  · rw [← hchain, hc, Except.ok.injEq, eq_comm]
  · rw [← haccount, ha, Except.ok.injEq, eq_comm]

/-- A second colon makes an account id out of a chain id, and the chain is still there. -/
theorem identifiers_follow_grammar_eip155 :
    (NamespaceWord "eip155" ∧ ReferenceWord "1" ∧ AddressWord "0xAb") ∧
    ChainId.parse "eip155:1" = .ok ⟨"eip155", "1"⟩ ∧
    AccountId.parse "eip155:1:0xAb" = .ok ⟨⟨"eip155", "1"⟩, "0xAb"⟩ ∧
    ¬ ∃ c, ChainId.parse "eip155:1:0xAb" = .ok c := by
  have hns : NamespaceWord "eip155" := (isNamespace_iff _).1 (by decide)
  have href : ReferenceWord "1" := (isReference_iff _).1 (by decide)
  have haddress : AddressWord "0xAb" := (isWordOf_isAddressChar_iff _).1 (by decide)
  obtain ⟨-, -, -, -, -, -, -, -, -, hchain, -⟩ := identifiers_follow_grammar "eip155:1"
  obtain ⟨-, -, -, -, -, -, hnone, -, -, -, haccount⟩ := identifiers_follow_grammar "eip155:1:0xAb"
  exact ⟨⟨hns, href, haddress⟩, hchain ⟨"eip155", "1"⟩ hns href,
    haccount ⟨⟨"eip155", "1"⟩, "0xAb"⟩ hns href haddress, (hnone.1 ⟨by decide, by decide⟩).2⟩

end WalletSession
