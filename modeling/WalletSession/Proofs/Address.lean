import WalletSession.Address
import WalletSession.Proofs.Numeral

set_option autoImplicit false

/-! # The spellings of an address

An address is written in many ways: with or without `0x`, and with every letter in either case, since no checksum is
looked at. These are all the texts that are read as this address (`Address.parse?_eq_some_iff`), and the text with the
checksum is one of them (`Address.parse?_text`). -/

namespace WalletSession
namespace Address

/-! ## Digits -/

theorem length_digits (a : Address) : a.digits.length = 40 := by
  have hwidth : (Numeral.digits 16 a.value.toNat).length ≤ 40 := by
    rw [Numeral.digits_eq_toDigits (by omega) (by omega)]
    exact (Nat.length_toDigits_le_iff (by omega) (by omega)).2 a.value.isLt
  rw [digits, List.length_append, List.length_replicate]
  omega

theorem valueFrom?_digits (a : Address) : Numeral.valueFrom? 16 0 a.digits = some a.value.toNat := by
  obtain ⟨factor, hfactor⟩ := Numeral.valueFrom?_digitsOnto (show 2 ≤ 16 by omega) (by omega) a.value.toNat []
  rw [digits, Numeral.valueFrom?_replicate_zero (by omega), Numeral.digits, hfactor, Nat.zero_mul, Nat.zero_add]
  rfl

theorem isWritten_of_mem_digits {a : Address} {c : Char} (h : c ∈ a.digits) : Numeral.IsWritten 16 c := by
  rw [digits, List.mem_append, List.mem_replicate] at h
  rcases h with ⟨-, rfl⟩ | h
  · exact ⟨0, by omega, rfl⟩
  · exact Numeral.isWritten_of_mem_digits (by omega) h

/-- Digits are written in lower case, and stay the same when their letters go up and down. -/
theorem toLower_of_isWritten {c : Char} (h : Numeral.IsWritten 16 c) : c.toLower = c ∧ c.toUpper.toLower = c := by
  have hdigit : ∀ d : Fin 16, (Numeral.digit d).toLower = Numeral.digit d ∧
      (Numeral.digit d).toUpper.toLower = Numeral.digit d := by decide
  obtain ⟨d, hd, rfl⟩ := h
  exact hdigit ⟨d, hd⟩

theorem map_toLower_digits (a : Address) : a.digits.map Char.toLower = a.digits := by
  have hlower : ∀ c ∈ a.digits, c.toLower = c := fun c hc => (toLower_of_isWritten (isWritten_of_mem_digits hc)).1
  rw [List.map_congr_left hlower, List.map_id']

/-- The address of forty digits. -/
def ofDigits? (cs : List Char) : Option Address :=
  if cs.length = 40 then (Numeral.value? 16 cs).map fun n => ⟨BitVec.ofNat 160 n⟩ else none

theorem ofDigits?_eq_some_iff {cs : List Char} {a : Address} :
    ofDigits? cs = some a ↔ cs.map Char.toLower = a.digits := by
  constructor
  · intro h
    unfold ofDigits? at h
    split at h
    · next hlength =>
      obtain ⟨n, hn, rfl⟩ := Option.map_eq_some_iff.1 h
      have hne : cs.isEmpty = false := by
        rw [List.isEmpty_eq_false_iff]
        rintro rfl
        cases hlength
      rw [Numeral.value?, hne] at hn
      have hlt : n < 2 ^ 160 := by
        have := Numeral.lt_of_valueFrom? hn
        rwa [hlength] at this
      have hvalue : (BitVec.ofNat 160 n).toNat = n := by
        rw [BitVec.toNat_ofNat, Nat.mod_eq_of_lt hlt]
      have hdigits := valueFrom?_digits ⟨BitVec.ofNat 160 n⟩
      rw [hvalue] at hdigits
      rw [(Numeral.toLower_eq_of_valueFrom? (hlength.trans (length_digits _).symm) hn hdigits).2, map_toLower_digits]
    · cases h
  · intro h
    have hlength : cs.length = 40 := by
      rw [← length_digits a, ← h, List.length_map]
    have hne : a.digits.isEmpty = false := by
      rw [List.isEmpty_eq_false_iff, ← List.length_pos_iff, length_digits]
      omega
    rw [ofDigits?, if_pos hlength, ← Numeral.value?_map_toLower, h, Numeral.value?, hne]
    simp [valueFrom?_digits]

/-! ## Spellings -/

/-- `s` is the digits of `a` in any case, with or without `0x` in front. -/
def SpelledBy (a : Address) (s : String) : Prop :=
  s.toList.map Char.toLower = a.digits ∨ s.toList.map Char.toLower = '0' :: 'x' :: a.digits

/-- A text without the mark. -/
def unmarked : List Char → List Char
  | '0' :: 'x' :: rest => rest
  | '0' :: 'X' :: rest => rest
  | cs => cs

theorem parse?_eq (s : String) : parse? s = ofDigits? (unmarked s.toList) := rfl

theorem unmarked_cases (cs : List Char) :
    cs = '0' :: 'x' :: unmarked cs ∨ cs = '0' :: 'X' :: unmarked cs ∨
      unmarked cs = cs ∧ ∀ rest, cs ≠ '0' :: 'x' :: rest ∧ cs ≠ '0' :: 'X' :: rest := by
  unfold unmarked
  split
  · exact .inl rfl
  · exact .inr (.inl rfl)
  · next hlower hupper => exact .inr (.inr ⟨rfl, fun rest => ⟨hlower rest, hupper rest⟩⟩)

/-- The mark is no part of the digits. -/
theorem marked_ne_digits (a : Address) (cs : List Char) : '0' :: 'x' :: cs ≠ a.digits := by
  intro h
  have hvalue := a.valueFrom?_digits
  rw [← h] at hvalue
  cases hvalue

/-- What is the mark in lower case is the mark. -/
theorem marked_of_map_toLower {cs rest : List Char} (h : cs.map Char.toLower = '0' :: 'x' :: rest) :
    ∃ rest, cs = '0' :: 'x' :: rest ∨ cs = '0' :: 'X' :: rest := by
  obtain ⟨zero, more, rfl, hzero, hmore⟩ := List.map_eq_cons_iff.1 h
  obtain ⟨mark, cs, rfl, hmark, -⟩ := List.map_eq_cons_iff.1 hmore
  have hzero : zero.toLower.toNat = 48 := congrArg Char.toNat hzero
  have hmark : mark.toLower.toNat = 120 := congrArg Char.toNat hmark
  rw [Numeral.toNat_toLower] at hzero hmark
  have hzero : zero = '0' := Char.toNat_inj.1 (show zero.toNat = 48 by grind)
  have hmark : mark.toNat = 120 ∨ mark.toNat = 88 := by grind
  refine ⟨cs, ?_⟩
  rw [hzero]
  rcases hmark with hlower | hupper
  · exact .inl (by rw [Char.toNat_inj.1 (show mark.toNat = 'x'.toNat from hlower)])
  · exact .inr (by rw [Char.toNat_inj.1 (show mark.toNat = 'X'.toNat from hupper)])

/-- **The texts that are read as an address are its spellings.** -/
theorem parse?_eq_some_iff {s : String} {a : Address} : parse? s = some a ↔ a.SpelledBy s := by
  have hmarked (cs : List Char) : '0' :: 'x' :: cs = a.digits ∨ '0' :: 'x' :: cs = '0' :: 'x' :: a.digits ↔
      cs = a.digits := by simp [marked_ne_digits]
  rw [parse?_eq, ofDigits?_eq_some_iff, SpelledBy]
  rcases unmarked_cases s.toList with h | h | ⟨h, hno⟩
  · rw [h]
    exact (hmarked _).symm
  · rw [h]
    exact (hmarked _).symm
  · rw [h]
    refine (or_iff_left fun hlower => ?_).symm
    obtain ⟨rest, hlower | hupper⟩ := marked_of_map_toLower hlower
    · exact (hno rest).1 hlower
    · exact (hno rest).2 hupper

/-! ## The checksum -/

theorem toLower_text (a : Address) : a.text.toList.map Char.toLower = '0' :: 'x' :: a.digits := by
  have hdigits (check : List Nat) :
      (a.digits.mapIdx fun i c => if 8 ≤ check.getD i 0 then c.toUpper else c).map Char.toLower = a.digits := by
    refine List.ext_getElem (by simp) fun i _ hi => ?_
    have hc := toLower_of_isWritten (isWritten_of_mem_digits (List.getElem_mem hi))
    rw [List.getElem_map, List.getElem_mapIdx]
    split
    · exact hc.2
    · exact hc.1
  rw [text, String.toList_ofList, List.map_cons, List.map_cons, hdigits]
  rfl

/-- **An address is read back from its text.** -/
theorem parse?_text (a : Address) : parse? a.text = some a :=
  parse?_eq_some_iff.2 (.inr a.toLower_text)

end Address
end WalletSession
