import WalletSession.Proofs.Numeral
import WalletSession.Proofs.ScopeName

set_option autoImplicit false

/-! # One name for every eip155 chain

A reference is read as a number if it is the decimal numeral of this number. So a scope has the number of an
eip155 chain exactly if it is spelled like the chain id of that number (`ScopeName.eip155?_eq_some_iff`), and no two
scopes have the same number. -/

namespace WalletSession

theorem isWritten_of_isAsciiDigit {c : Char} (h : isAsciiDigit c = true) : Numeral.IsWritten 10 c := by
  simp only [isAsciiDigit, Bool.decide_and, Bool.and_eq_true, decide_eq_true_eq] at h
  have hlow : 48 ≤ c.toNat := h.1
  have hhigh : c.toNat ≤ 57 := h.2
  refine ⟨c.toNat - 48, by omega, ?_⟩
  have hback : '0'.toNat + (c.toNat - 48) = c.toNat := Nat.add_sub_cancel' hlow
  rw [Numeral.digit, if_pos (by omega), hback, Char.ofNat_toNat]

/-- A reference is the decimal numeral of its number. -/
theorem Eip155.eq_reference_of_number? {reference : String} {n : ChainNumber} (h : number? reference = some n) :
    reference = Eip155.reference n := by
  simp only [number?] at h
  split at h
  · next hcanonical =>
    simp only [Bool.and_eq_true, List.all_eq_true, Bool.or_eq_true, beq_iff_eq, bne_iff_ne] at hcanonical
    obtain ⟨m, hm, hword⟩ := Option.bind_eq_some_iff.1 h
    have hn : n.toNat = m := Numeral.word?_eq_some_iff.1 hword
    have hdigits := Numeral.eq_digits_of_value? (by omega) (by omega)
      (fun c hc => isWritten_of_isAsciiDigit (hcanonical.1 c hc)) hcanonical.2 hm
    rw [Eip155.reference, hn, Numeral.decimal, ← hdigits, String.ofList_toList]
  · cases h

theorem Eip155.toList_reference (n : ChainNumber) : (reference n).toList = Nat.toDigits 10 n.toNat := by
  rw [reference, Numeral.decimal, String.toList_ofList, Numeral.digits_eq_toDigits (by omega) (by omega)]

theorem Eip155.isAsciiDigit_of_mem_reference {n : ChainNumber} {c : Char} (h : c ∈ (reference n).toList) :
    isAsciiDigit c = true := by
  rw [toList_reference] at h
  have hdigit := Nat.isDigit_of_mem_toDigits (by omega) (by omega) h
  simp only [Char.isDigit, Bool.and_eq_true, decide_eq_true_eq] at hdigit
  exact decide_eq_true hdigit

/-- The reference of a number is read as this number. -/
theorem Eip155.number?_reference (n : ChainNumber) : number? (reference n) = some n := by
  have hdigits : (reference n).toList = Numeral.digits 10 n.toNat := String.toList_ofList
  have hall : (reference n).toList.all isAsciiDigit = true :=
    List.all_eq_true.2 fun _ hc => isAsciiDigit_of_mem_reference hc
  have hzero : ((reference n).toList == ['0'] || (reference n).toList.head? != some '0') = true := by
    rw [Bool.or_eq_true, beq_iff_eq, bne_iff_ne, hdigits]
    exact Numeral.digits_eq_zero_or_head?_ne (by omega) (by omega) n.toNat
  have hword : Numeral.word? n.toNat = some n := Numeral.word?_eq_some_iff.2 rfl
  simp only [number?, hall, hzero, Bool.and_self, if_true]
  rw [hdigits, Numeral.value?_digits (by omega) (by omega), Option.bind_some, hword]

theorem Eip155.isReference_reference (n : ChainNumber) : isReference (reference n) = true := by
  have hlength : (reference n).toList.length ≤ 32 := by
    have hlt : n.toNat < 10 ^ 32 := Nat.lt_trans (UInt64.toNat_lt n) (by decide)
    rw [toList_reference]
    exact (Nat.length_toDigits_le_iff (by omega) (by omega)).2 hlt
  have hpos : 1 ≤ (reference n).toList.length := by
    rw [toList_reference]
    exact Nat.length_toDigits_pos
  rw [isReference, isWordOf, Bool.and_eq_true, Bool.and_eq_true, decide_eq_true_eq, decide_eq_true_eq,
    List.all_eq_true]
  refine ⟨⟨hpos, hlength⟩, fun c hc => ?_⟩
  rw [isReferenceChar, isAsciiDigit_of_mem_reference hc, Bool.or_true]

theorem Eip155.text_chainId (n : ChainNumber) : (chainId n).text = "eip155:" ++ Nat.repr n.toNat := by
  rw [← Numeral.decimal_eq_repr]
  rfl

theorem ChainId.eip155?_chainId (n : ChainNumber) : (Eip155.chainId n).eip155? = some n := by
  have hns : (Eip155.chainId n).ns = Eip155.namespaceName := rfl
  rw [eip155?, if_pos hns]
  exact Eip155.number?_reference n

theorem ChainId.eq_chainId_of_eip155? {c : ChainId} {n : ChainNumber} (h : c.eip155? = some n) :
    c = Eip155.chainId n := by
  obtain ⟨ns, reference⟩ := c
  unfold eip155? at h
  split at h
  · next hns =>
    cases hns
    have href : reference = Eip155.reference n := Eip155.eq_reference_of_number? h
    rw [href, Eip155.chainId]
    rfl
  · cases h

namespace ScopeName

/-- Only chain ids have a number. -/
theorem eip155?_parse (s : String) : (parse s).eip155? = (ChainId.parse? s).bind ChainId.eip155? := by
  cases hc : ChainId.parse? s with
  | some c =>
    rw [parse_eq_chain_iff.2 hc]
    rfl
  | none =>
    have hchain (c : ChainId) : parse s ≠ .chain c := by
      rw [ne_eq, parse_eq_chain_iff, hc]
      simp
    cases hs : parse s with
    | chain c => exact absurd hs (hchain c)
    | bare => rfl
    | unrecognized => rfl

theorem eq_text_of_eip155? {s : String} {n : ChainNumber} (h : (parse s).eip155? = some n) :
    s = (Eip155.chainId n).text := by
  cases hs : parse s with
  | bare ns => simp [hs, eip155?] at h
  | unrecognized => simp [hs, eip155?] at h
  | chain c =>
    rw [hs] at h
    rw [← ChainId.eq_chainId_of_eip155? h]
    exact (ChainId.parse?_eq_some_iff.1 (parse_eq_chain_iff.1 hs)).1

theorem parse_text_chainId (n : ChainNumber) :
    parse (Eip155.chainId n).text = .chain (Eip155.chainId n) := by
  have hns : isNamespace Eip155.namespaceName = true := by decide
  exact parse_eq_chain_iff.2 (ChainId.parse?_eq_some_iff.2 ⟨rfl, hns, Eip155.isReference_reference n⟩)

/-- **A scope has the number that it is spelled with, and no other.** -/
theorem eip155?_eq_some_iff {s : String} {n : ChainNumber} :
    (parse s).eip155? = some n ↔ s = (Eip155.chainId n).text := by
  constructor
  · exact eq_text_of_eip155?
  · rintro rfl
    rw [parse_text_chainId]
    exact ChainId.eip155?_chainId n

theorem eip155?_eq_some_iff_repr {s : String} {n : ChainNumber} :
    (parse s).eip155? = some n ↔ s = "eip155:" ++ Nat.repr n.toNat := by
  rw [eip155?_eq_some_iff, Eip155.text_chainId]

/-- Numbers have 64 bits, and zeros do not lead. -/
example :
    (parse "eip155:18446744073709551615").eip155? = some 18446744073709551615 ∧
    (parse "eip155:18446744073709551616").eip155? = none ∧ (parse "eip155:01").eip155? = none := by
  decide +kernel

/-- **No two scopes have the same number.** -/
theorem eip155?_inj {s s' : String} {n : ChainNumber} (h : (parse s).eip155? = some n)
    (h' : (parse s').eip155? = some n) : s = s' :=
  (eq_text_of_eip155? h).trans (eq_text_of_eip155? h').symm

end ScopeName

/-! ## Hexadecimal texts -/

/-- The digits of base sixteen are written in lower case. -/
theorem isWritten_sixteen_iff {c : Char} :
    (isAsciiDigit c || decide ('a' ≤ c ∧ c ≤ 'f')) = true ↔ Numeral.IsWritten 16 c := by
  rw [Bool.or_eq_true, decide_eq_true_eq]
  constructor
  · rintro (hdigit | ⟨hlow, hhigh⟩)
    · obtain ⟨d, hd, rfl⟩ := isWritten_of_isAsciiDigit hdigit
      exact ⟨d, by omega, rfl⟩
    · have hlow : 97 ≤ c.toNat := hlow
      have hhigh : c.toNat ≤ 102 := hhigh
      refine ⟨c.toNat - 87, by omega, ?_⟩
      have hback : 'a'.toNat + (c.toNat - 87 - 10) = c.toNat := by
        show 97 + (c.toNat - 87 - 10) = c.toNat
        omega
      rw [Numeral.digit, if_neg (by omega), hback, Char.ofNat_toNat]
  · have hdigit : ∀ d : Fin 16, isAsciiDigit (Numeral.digit d) = true ∨
        'a' ≤ Numeral.digit d ∧ Numeral.digit d ≤ 'f' := by decide
    rintro ⟨d, hd, rfl⟩
    exact hdigit ⟨d, hd⟩

namespace Eip155

theorem toList_hex (n : ChainNumber) : (hex n).toList = '0' :: 'x' :: Numeral.digits 16 n.toNat := by
  simp [hex, Numeral.hex]

/-- Digits without leading zeros are those of their value. -/
theorem canonicalDigits_iff {cs : List Char} {n : ChainNumber} :
    (cs.head? ≠ some '0' ∧ ∀ c ∈ cs, Numeral.IsWritten 16 c) ∧ Numeral.signedWord? 16 cs = some n ↔
      cs = Numeral.digits 16 n.toNat ∧ n ≠ 0 := by
  have hsign (hcs : ∀ c ∈ cs, Numeral.IsWritten 16 c) : '+' ∉ cs := by
    have hdigit : ∀ d : Fin 16, '+' ≠ Numeral.digit d := by decide
    intro hmem
    obtain ⟨d, hd, hplus⟩ := hcs '+' hmem
    exact hdigit ⟨d, hd⟩ hplus
  constructor
  · rintro ⟨⟨hzero, hcs⟩, hvalue⟩
    rw [Numeral.signedWord?_eq_some_iff (hsign hcs)] at hvalue
    have hdigits := Numeral.eq_digits_of_value? (by omega) (by omega) hcs (Or.inr hzero) hvalue
    refine ⟨hdigits, ?_⟩
    rintro rfl
    rw [hdigits, UInt64.toNat_zero, Numeral.digits_zero (by omega)] at hzero
    exact hzero rfl
  · rintro ⟨rfl, hn⟩
    have hpos : 0 < n.toNat := Nat.pos_of_ne_zero fun h => hn (UInt64.toNat_inj.1 h)
    have hcs : ∀ c ∈ Numeral.digits 16 n.toNat, Numeral.IsWritten 16 c := fun c hc =>
      Numeral.isWritten_of_mem_digits (by omega) hc
    exact ⟨⟨Numeral.head?_digits_ne (by omega) (by omega) hpos, hcs⟩,
      (Numeral.signedWord?_eq_some_iff (hsign hcs)).2 (Numeral.value?_digits (by omega) (by omega) _)⟩

/-- **A number other than zero has one canonical spelling.** -/
theorem ofCanonicalHex?_eq_some_iff {s : String} {n : ChainNumber} :
    ofCanonicalHex? s = some n ↔ s = hex n ∧ n ≠ 0 := by
  rw [← String.toList_inj, toList_hex]
  unfold ofCanonicalHex? ofHex?
  split
  · next digits hs =>
    rw [hs, List.cons.injEq, List.cons.injEq]
    simp only [true_and, ← canonicalDigits_iff, Option.ite_none_right_eq_some, Bool.and_eq_true, bne_iff_ne,
      List.all_eq_true, isWritten_sixteen_iff]
  · next hno =>
    simp only [reduceCtorEq, false_iff, not_and]
    intro hs
    exact absurd hs (hno _)

end Eip155
end WalletSession
