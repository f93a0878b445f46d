import Mathlib.Data.Nat.Digits.Defs
import WalletSession.Proofs.Eip155

set_option autoImplicit false

/-! # Hexadecimal numbers of chains

The number of a chain is written in one way and read in many: zeros may lead, letters may be in either case, and there
may be a plus sign in front of the digits (`Eip155.ofHex?_eq_some_iff`). -/

namespace WalletSession

/-! ## What digits stand for -/

/-- A hexadecimal digit stands for its place among the digits, in lower or in upper case. -/
def IsHexDigit (c : Char) (d : Nat) : Prop :=
  "0123456789abcdef".toList[d]? = some c ∨ "0123456789ABCDEF".toList[d]? = some c

/-- Hexadecimal digits spell a number, the most significant one first. -/
def SpellsHex (cs : List Char) (n : Nat) : Prop :=
  ∃ ds, List.Forall₂ IsHexDigit cs ds ∧ n = Nat.ofDigits 16 ds.reverse

theorem IsHexDigit.lt {c : Char} {d : Nat} (h : IsHexDigit c d) : d < 16 := by
  rcases h with h | h <;> exact (List.getElem?_eq_some_iff.1 h).1

namespace Numeral

/-- Digits are read by their places. -/
theorem digitValue?_eq_some_iff {c : Char} {d : Nat} : digitValue? c = some d ↔ IsHexDigit c d := by
  constructor
  · intro h
    have hdecimal : ∀ d : Fin 10, IsHexDigit (Char.ofNat (48 + d)) d := by
      unfold IsHexDigit
      decide
    have hlower : ∀ d : Fin 6, IsHexDigit (Char.ofNat (97 + d)) (d + 10) := by
      unfold IsHexDigit
      decide
    have hupper : ∀ d : Fin 6, IsHexDigit (Char.ofNat (65 + d)) (d + 10) := by
      unfold IsHexDigit
      decide
    rw [digitValue?_eq] at h
    rw [← Char.ofNat_toNat c]
    split at h
    · next hrange =>
      cases h
      have hdigit := hdecimal ⟨c.toNat - 48, by omega⟩
      simpa [Nat.add_sub_cancel' hrange.1] using hdigit
    · split at h
      · next hrange =>
        cases h
        have hdigit := hlower ⟨c.toNat - 97, by omega⟩
        simpa [Nat.add_sub_cancel' hrange.1] using hdigit
      · split at h
        · next hrange =>
          cases h
          have hdigit := hupper ⟨c.toNat - 65, by omega⟩
          simpa [Nat.add_sub_cancel' hrange.1] using hdigit
        · cases h
  · intro h
    have hread : ∀ d : Fin 16, digitValue? "0123456789abcdef".toList[d] = some d.val ∧
        digitValue? "0123456789ABCDEF".toList[d] = some d.val := by decide
    rcases h with h | h
    · obtain ⟨hlt, rfl⟩ := List.getElem?_eq_some_iff.1 h
      exact (hread ⟨d, hlt⟩).1
    · obtain ⟨hlt, rfl⟩ := List.getElem?_eq_some_iff.1 h
      exact (hread ⟨d, hlt⟩).2

/-- Digits continue the number read before them. -/
theorem valueFrom?_sixteen_eq_some_iff {acc n : Nat} {cs : List Char} : valueFrom? 16 acc cs = some n ↔
    ∃ ds, List.Forall₂ IsHexDigit cs ds ∧ n = acc * 16 ^ ds.length + Nat.ofDigits 16 ds.reverse := by
  induction cs generalizing acc with
  | nil =>
    rw [valueFrom?, Option.some.injEq]
    constructor
    · rintro rfl
      exact ⟨[], List.Forall₂.nil, by simp⟩
    · rintro ⟨ds, hall, rfl⟩
      cases hall
      simp
  | cons c rest ih =>
    simp only [valueFrom?_cons_eq_some_iff, digitValue?_eq_some_iff, ih]
    constructor
    · rintro ⟨d, -, hdigit, ds, hrest, rfl⟩
      refine ⟨d :: ds, List.Forall₂.cons hdigit hrest, ?_⟩
      rw [List.reverse_cons, Nat.ofDigits_append, Nat.ofDigits_singleton, List.length_reverse, List.length_cons]
      ring
    · rintro ⟨ds, hall, rfl⟩
      cases hall with
      | @cons _ d _ ds hdigit hrest =>
        refine ⟨d, hdigit.lt, hdigit, ds, hrest, ?_⟩
        rw [List.reverse_cons, Nat.ofDigits_append, Nat.ofDigits_singleton, List.length_reverse, List.length_cons]
        ring

theorem value?_sixteen_eq_some_iff {n : Nat} {cs : List Char} :
    value? 16 cs = some n ↔ cs ≠ [] ∧ SpellsHex cs n := by
  rw [value?, Option.ite_none_left_eq_some, List.isEmpty_iff, valueFrom?_sixteen_eq_some_iff]
  simp only [Nat.zero_mul, Nat.zero_add, SpellsHex]

/-- There may be one plus sign in front of the digits. -/
theorem signedWord?_eq_some_iff_exists {cs : List Char} {n : UInt64} : signedWord? 16 cs = some n ↔
    ∃ sign digits, cs = sign ++ digits ∧ (sign = [] ∨ sign = ['+']) ∧ value? 16 digits = some n.toNat := by
  have hword (digits : List Char) : (value? 16 digits).bind word? = some n ↔ value? 16 digits = some n.toNat := by
    simp only [Option.bind_eq_some_iff, word?_eq_some_iff]
    constructor
    · rintro ⟨m, hm, rfl⟩
      exact hm
    · exact fun h => ⟨n.toNat, h, rfl⟩
  -- A plus sign is no digit itself, so that it cannot be read as one of them.
  have hplus (rest : List Char) : value? 16 ('+' :: rest) = none := rfl
  unfold signedWord?
  split
  · next rest =>
    rw [hword]
    constructor
    · exact fun h => ⟨['+'], rest, rfl, .inr rfl, h⟩
    · rintro ⟨sign, digits, hcs, rfl | rfl, h⟩
      · rw [List.nil_append] at hcs
        rw [← hcs, hplus] at h
        cases h
      · cases hcs
        exact h
  · next hno =>
    rw [hword]
    constructor
    · exact fun h => ⟨[], cs, rfl, .inl rfl, h⟩
    · rintro ⟨sign, digits, rfl, rfl | rfl, h⟩
      · exact h
      · exact absurd rfl (hno digits)

end Numeral

namespace Eip155

/-- A text is a number in hexadecimal: there is the mark and then nothing but digits, at least one, that spell the
number. -/
def IsHexOf (n : ChainNumber) (s : String) : Prop :=
  ∃ digits, s = "0x" ++ digits ∧ digits ≠ "" ∧ SpellsHex digits.toList n.toNat

theorem ofHex?_hex (n : ChainNumber) : ofHex? (hex n) = some n := by
  have hplus : ∀ d : Fin 16, '+' ≠ Numeral.digit d := by decide
  have hsign : '+' ∉ Numeral.digits 16 n.toNat := by
    intro hmem
    obtain ⟨d, hd, hdigit⟩ := Numeral.isWritten_of_mem_digits (by omega) hmem
    exact hplus ⟨d, hd⟩ hdigit
  simp only [ofHex?, toList_hex]
  exact (Numeral.signedWord?_eq_some_iff hsign).2 (Numeral.value?_digits (by omega) (by omega) _)

/-- A text is read after its mark. -/
theorem ofHex?_eq_signedWord?_iff {s : String} {n : ChainNumber} :
    ofHex? s = some n ↔ ∃ cs, s.toList = '0' :: 'x' :: cs ∧ Numeral.signedWord? 16 cs = some n := by
  unfold ofHex?
  split
  · next cs hs => simp [hs]
  · next hno =>
    simp only [reduceCtorEq, false_iff]
    rintro ⟨cs, hs, -⟩
    exact hno cs hs

/-- Digits alone are no signed text: the sign is not among them. -/
theorem not_isHexOf_signed (n : ChainNumber) (digits : String) : ¬ IsHexOf n ("0x+" ++ digits) := by
  rintro ⟨written, hwritten, -, ds, hall, -⟩
  have hsigned : written.toList = '+' :: digits.toList := by
    have hlist : "0x".toList ++ '+' :: digits.toList = "0x".toList ++ written.toList := by
      rw [← String.toList_append, ← hwritten, String.toList_append]
      rfl
    exact (List.append_cancel_left hlist).symm
  rw [hsigned] at hall
  cases hall with
  | cons hplus hrest => cases Numeral.digitValue?_eq_some_iff.2 hplus

theorem ofHex?_eq_some_iff {s : String} {n : ChainNumber} : ofHex? s = some n ↔
    IsHexOf n s ∨ ∃ digits, s = "0x+" ++ digits ∧ IsHexOf n ("0x" ++ digits) := by
  simp only [ofHex?_eq_signedWord?_iff, Numeral.signedWord?_eq_some_iff_exists, Numeral.value?_sixteen_eq_some_iff]
  constructor
  · rintro ⟨_, hs, sign, digits, rfl, hsign, hne, hspells⟩
    have hdigits : String.ofList digits ≠ "" := by
      rw [ne_eq, ← String.toList_inj, String.toList_ofList]
      exact hne
    rcases hsign with rfl | rfl
    · refine .inl ⟨String.ofList digits, ?_, hdigits, by rwa [String.toList_ofList]⟩
      rw [← String.toList_inj, hs]
      simp
    · refine .inr ⟨String.ofList digits, ?_, String.ofList digits, rfl, hdigits, by rwa [String.toList_ofList]⟩
      rw [← String.toList_inj, hs]
      simp
  · rintro (⟨digits, rfl, hne, hspells⟩ | ⟨digits, rfl, written, hwritten, hne, hspells⟩)
    · refine ⟨digits.toList, by simp, [], digits.toList, rfl, .inl rfl, ?_, hspells⟩
      rwa [ne_eq, ← String.toList_inj] at hne
    · obtain rfl : digits = written := by
        rw [← String.toList_inj] at hwritten ⊢
        simpa only [String.toList_append, List.append_cancel_left_eq] using hwritten
      refine ⟨'+' :: digits.toList, by simp, ['+'], digits.toList, rfl, .inr rfl, ?_, hspells⟩
      rwa [ne_eq, ← String.toList_inj] at hne

/-- **A number is read back as it was written, and a text is read as the number that the digits after its mark spell**,
if they spell one of 64 bits: zeros may lead, and letters may be in either case. Other texts are read in one case only,
where a plus sign stands in front of the digits. -/
theorem reads_hexadecimal (s : String) (n : ChainNumber) :
    ofHex? (hex n) = some n ∧
    (ofHex? s = some n ↔ IsHexOf n s ∨ ∃ digits, s = "0x+" ++ digits ∧ IsHexOf n ("0x" ++ digits)) ∧
    ((ofHex? s = some n ↔ IsHexOf n s) ↔ ¬ ∃ digits, s = "0x+" ++ digits ∧ IsHexOf n ("0x" ++ digits)) := by
  refine ⟨ofHex?_hex n, ofHex?_eq_some_iff, ?_⟩
  rw [ofHex?_eq_some_iff]
  constructor
  · rintro hdigits ⟨digits, rfl, hsigned⟩
    exact not_isHexOf_signed n digits (hdigits.1 (.inr ⟨digits, rfl, hsigned⟩))
  · exact fun hunsigned => or_iff_left hunsigned

/-- A text with a sign is read, although there are not only digits after its mark. -/
theorem reads_signed_hexadecimal : ofHex? "0x+1" = some 1 ∧ ¬ IsHexOf 1 "0x+1" :=
  ⟨by decide +kernel, not_isHexOf_signed 1 "1"⟩

end Eip155
end WalletSession
