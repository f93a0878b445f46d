import Mathlib.Algebra.Group.Nat.Defs
import WalletSession.Numeral

set_option autoImplicit false

/-! # Canonical numerals

A number has many numerals, since zeros may lead and letters come in two cases. Without these freedoms it has one:
what is read as `n` is what `n` is written as (`Numeral.eq_digits_of_value?`), which in base ten is its usual decimal
numeral (`Numeral.decimal_eq_repr`). If zeros lead up to a fixed width, only the case of the letters is left
(`Numeral.toLower_eq_of_valueFrom?`). -/

namespace WalletSession
namespace Numeral

variable {base : Nat}

/-! ## Digits in order -/

theorem digitsOnto_eq_append (base n : Nat) (tail : List Char) :
    digitsOnto base n tail = digits base n ++ tail := by
  have happend (tail rest : List Char) : digitsOnto base n (tail ++ rest) = digitsOnto base n tail ++ rest := by
    fun_induction digitsOnto base n tail with
    | case1 n tail h ih =>
      rw [digitsOnto, dif_pos h]
      exact ih
    | case2 n tail h =>
      rw [digitsOnto, dif_neg h]
      rfl
  exact happend [] tail

theorem digits_of_lt {d : Nat} (h : d < base) : digits base d = [digit d] := by
  rw [digits, digitsOnto, dif_neg (by omega)]

theorem digits_of_le {n : Nat} (hb : 2 ≤ base) (hn : base ≤ n) :
    digits base n = digits base (n / base) ++ [digit (n % base)] := by
  rw [digits, digitsOnto, dif_pos ⟨hb, hn⟩, digitsOnto_eq_append]

/-- One more digit at the end. -/
theorem digits_concat {d n : Nat} (hb : 2 ≤ base) (hd : d < base) (hn : 0 < n) :
    digits base (n * base + d) = digits base n ++ [digit d] := by
  have hle : base ≤ n * base + d := Nat.le_trans (Nat.le_mul_of_pos_left base hn) (Nat.le_add_right _ _)
  have hdiv : (n * base + d) / base = n := by
    rw [Nat.add_comm, Nat.add_mul_div_right _ _ (by omega), Nat.div_eq_of_lt hd, Nat.zero_add]
  have hmod : (n * base + d) % base = d := by
    rw [Nat.add_comm, Nat.add_mul_mod_self_right, Nat.mod_eq_of_lt hd]
  rw [digits_of_le hb hle, hdiv, hmod]

/-! ## The standard numerals -/

theorem digit_eq_digitChar {d : Nat} (h : d < 16) : digit d = Nat.digitChar d := by
  have : ∀ d : Fin 16, digit d = Nat.digitChar d := by decide
  exact this ⟨d, h⟩

/-- Numerals are the usual ones. -/
theorem digits_eq_toDigits (hb : 2 ≤ base) (hb' : base ≤ 16) (n : Nat) : digits base n = Nat.toDigits base n := by
  induction n using Nat.strongRecOn with
  | ind n ih =>
    by_cases hn : n < base
    · rw [digits_of_lt hn, Nat.toDigits_of_lt_base hn, digit_eq_digitChar (by omega)]
    · have hn : base ≤ n := Nat.not_lt.1 hn
      have hmod : n % base < base := Nat.mod_lt _ (by omega)
      rw [digits_of_le hb hn, ih _ (Nat.div_lt_self (by omega) (by omega)), digit_eq_digitChar (by omega),
        Nat.toDigits_of_base_le (by omega) hn]

theorem decimal_eq_repr (n : Nat) : decimal n = Nat.repr n := by
  rw [decimal, digits_eq_toDigits (by omega) (by omega), Nat.repr_eq_ofList_toDigits]

/-- No zero leads. -/
theorem head?_digits_ne (hb : 2 ≤ base) (hb' : base ≤ 16) {n : Nat} (hn : 0 < n) :
    (digits base n).head? ≠ some '0' := by
  have hdigit : ∀ d : Fin 16, 0 < d.val → digit d ≠ '0' := by decide
  induction n using Nat.strongRecOn with
  | ind n ih =>
    by_cases hlt : n < base
    · rw [digits_of_lt hlt, List.head?_cons, ne_eq, Option.some.injEq]
      exact hdigit ⟨n, by omega⟩ hn
    · have hle : base ≤ n := Nat.not_lt.1 hlt
      have hrest := ih (n / base) (Nat.div_lt_self hn (by omega)) (Nat.div_pos hle (by omega))
      obtain ⟨c, rest, hdigits⟩ := List.exists_cons_of_ne_nil (digitsOnto_ne_nil base (n / base) [])
      rw [digits, hdigits] at hrest
      rw [digits_of_le hb hle, digits, hdigits]
      exact hrest

theorem digits_zero (hb : 2 ≤ base) : digits base 0 = ['0'] := by
  rw [digits_of_lt (by omega)]
  rfl

theorem digits_eq_zero_or_head?_ne (hb : 2 ≤ base) (hb' : base ≤ 16) (n : Nat) :
    digits base n = ['0'] ∨ (digits base n).head? ≠ some '0' := by
  rcases Nat.eq_zero_or_pos n with rfl | hn
  · exact Or.inl (digits_zero hb)
  · exact Or.inr (head?_digits_ne hb hb' hn)

/-! ## Writing undoes reading -/

/-- A digit of `base` as it is written. -/
def IsWritten (base : Nat) (c : Char) : Prop := ∃ d < base, c = digit d

theorem isWritten_of_mem_digits (hb : 2 ≤ base) {c : Char} {n : Nat} (h : c ∈ digits base n) : IsWritten base c := by
  induction n using Nat.strongRecOn with
  | ind n ih =>
    by_cases hn : n < base
    · rw [digits_of_lt hn, List.mem_singleton] at h
      exact ⟨n, hn, h⟩
    · have hn : base ≤ n := Nat.not_lt.1 hn
      rw [digits_of_le hb hn, List.mem_append, List.mem_singleton] at h
      rcases h with h | h
      · exact ih (n / base) (Nat.div_lt_self (by omega) (by omega)) h
      · exact ⟨n % base, Nat.mod_lt _ (by omega), h⟩

theorem digits_append_of_valueFrom? (hb : 2 ≤ base) (hb' : base ≤ 16) {acc n : Nat} {cs : List Char}
    (hacc : 0 < acc) (hcs : ∀ c ∈ cs, IsWritten base c) (h : valueFrom? base acc cs = some n) :
    digits base acc ++ cs = digits base n := by
  induction cs generalizing acc with
  | nil =>
    cases h
    exact List.append_nil _
  | cons c rest ih =>
    obtain ⟨d, hd, rfl⟩ := hcs c (by simp)
    rw [valueFrom?, digitValue?_digit (by omega)] at h
    simp only [hd, if_true] at h
    have hpos : 0 < acc * base + d := Nat.add_pos_left (Nat.mul_pos hacc (by omega)) d
    have hrest := ih hpos (fun c hc => hcs c (by simp [hc])) h
    rw [digits_concat hb hd hacc] at hrest
    simpa using hrest

/-- **Writing undoes reading** where no zero leads. -/
theorem eq_digits_of_value? (hb : 2 ≤ base) (hb' : base ≤ 16) {n : Nat} {cs : List Char}
    (hcs : ∀ c ∈ cs, IsWritten base c) (hzero : cs = ['0'] ∨ cs.head? ≠ some '0')
    (h : value? base cs = some n) : cs = digits base n := by
  rcases hzero with rfl | hzero
  · have hzero : digitValue? '0' = some 0 := by decide
    simp only [value?, valueFrom?, List.isEmpty_cons, hzero, show 0 < base by omega, if_true] at h
    cases h
    rw [Nat.zero_mul, digits_zero hb]
  · cases cs with
    | nil => cases h
    | cons c rest =>
      obtain ⟨d, hd, rfl⟩ := hcs c (by simp)
      -- No zero leads, so the other digits are added to a number that is written already.
      have hpos : 0 < d := by
        rw [Nat.pos_iff_ne_zero]
        rintro rfl
        exact hzero rfl
      simp only [value?, valueFrom?, List.isEmpty_cons, digitValue?_digit (show d < 16 by omega), hd, if_true] at h
      have hrest := digits_append_of_valueFrom? hb hb' (by omega) (fun c hc => hcs c (by simp [hc])) h
      rw [Nat.zero_mul, Nat.zero_add, digits_of_lt hd] at hrest
      exact hrest

/-! ## Digits of either case -/

theorem toNat_toLower (c : Char) :
    c.toLower.toNat = if 65 ≤ c.toNat ∧ c.toNat ≤ 90 then c.toNat + 32 else c.toNat := by
  have hupper : (c.val ≥ 'A'.val ∧ c.val ≤ 'Z'.val) ↔ 65 ≤ c.toNat ∧ c.toNat ≤ 90 := Iff.rfl
  unfold Char.toLower
  by_cases h : c.val ≥ 'A'.val ∧ c.val ≤ 'Z'.val
  · rw [dif_pos h, if_pos (hupper.1 h)]
    have hle : c.val.toNat ≤ 90 := h.2
    show (c.val + ('a'.val - 'A'.val)).toNat = c.val.toNat + 32
    rw [UInt32.toNat_add, show ('a'.val - 'A'.val).toNat = 32 from rfl]
    omega
  · rw [dif_neg h, if_neg (mt hupper.2 h)]

/-- The digits by their code points. -/
theorem digitValue?_eq (c : Char) : digitValue? c =
    if 48 ≤ c.toNat ∧ c.toNat ≤ 57 then some (c.toNat - 48)
    else if 97 ≤ c.toNat ∧ c.toNat ≤ 102 then some (c.toNat - 97 + 10)
    else if 65 ≤ c.toNat ∧ c.toNat ≤ 70 then some (c.toNat - 65 + 10)
    else none := rfl

theorem digitValue?_toLower (c : Char) : digitValue? c.toLower = digitValue? c := by
  rw [digitValue?_eq, digitValue?_eq, toNat_toLower]
  grind

theorem toLower_of_digitValue? {c : Char} {d : Nat} (h : digitValue? c = some d) : c.toLower = digit d := by
  have hnat : c.toLower.toNat = if d < 10 then 48 + d else 97 + (d - 10) := by
    rw [digitValue?_eq] at h
    rw [toNat_toLower]
    grind
  rw [← Char.ofNat_toNat c.toLower, hnat, digit]
  split <;> rfl

theorem valueFrom?_map_toLower (base acc : Nat) (cs : List Char) :
    valueFrom? base acc (cs.map Char.toLower) = valueFrom? base acc cs := by
  induction cs generalizing acc with
  | nil => rfl
  | cons c rest ih => simp only [List.map_cons, valueFrom?, digitValue?_toLower, ih]

/-- The case of the digits does not matter. -/
theorem value?_map_toLower (base : Nat) (cs : List Char) : value? base (cs.map Char.toLower) = value? base cs := by
  rw [value?, value?, valueFrom?_map_toLower, List.isEmpty_map]

/-! ## Numerals of one width -/

/-- One digit more is read before the rest. -/
theorem valueFrom?_cons_eq_some_iff {acc n : Nat} {c : Char} {rest : List Char} :
    valueFrom? base acc (c :: rest) = some n ↔
      ∃ d < base, digitValue? c = some d ∧ valueFrom? base (acc * base + d) rest = some n := by
  rw [valueFrom?]
  cases digitValue? c with
  | none => simp
  | some d =>
    simp only [Option.some.injEq]
    constructor
    · intro h
      split at h
      · next hd => exact ⟨d, hd, rfl, h⟩
      · cases h
    · rintro ⟨_, hd, rfl, h⟩
      rwa [if_pos hd]

theorem lt_of_valueFrom? {acc n : Nat} {cs : List Char} (h : valueFrom? base acc cs = some n) :
    n < (acc + 1) * base ^ cs.length := by
  induction cs generalizing acc with
  | nil =>
    cases h
    simp
  | cons c rest ih =>
    obtain ⟨d, hd, -, hrest⟩ := valueFrom?_cons_eq_some_iff.1 h
    have hacc : acc * base + d + 1 ≤ (acc + 1) * base := by
      rw [Nat.add_mul, Nat.one_mul]
      omega
    calc n < (acc * base + d + 1) * base ^ rest.length := ih hrest
      _ ≤ (acc + 1) * base * base ^ rest.length := Nat.mul_le_mul_right _ hacc
      _ = (acc + 1) * base ^ (rest.length + 1) := by rw [Nat.mul_assoc, Nat.pow_succ']

/-- Two numerals of one width and one value differ in case at most, and continue the same number. -/
theorem toLower_eq_of_valueFrom? {acc acc' n : Nat} {cs cs' : List Char} (hlength : cs.length = cs'.length)
    (h : valueFrom? base acc cs = some n) (h' : valueFrom? base acc' cs' = some n) :
    acc = acc' ∧ cs.map Char.toLower = cs'.map Char.toLower := by
  induction cs generalizing acc acc' cs' with
  | nil =>
    cases cs' with
    | nil =>
      cases h
      cases h'
      exact ⟨rfl, rfl⟩
    | cons c' rest' => simp at hlength
  | cons c rest ih =>
    cases cs' with
    | nil => simp at hlength
    | cons c' rest' =>
      obtain ⟨d, hd, hc, hrest⟩ := valueFrom?_cons_eq_some_iff.1 h
      obtain ⟨d', hd', hc', hrest'⟩ := valueFrom?_cons_eq_some_iff.1 h'
      obtain ⟨hacc, hlower⟩ := ih (Nat.succ.inj hlength) hrest hrest'
      -- Quotient and remainder of the number read so far.
      have hdiv : acc = acc' := by
        have := congrArg (· / base) hacc
        simpa [Nat.add_comm _ d, Nat.add_comm _ d', Nat.add_mul_div_right _ _ (Nat.zero_lt_of_lt hd),
          Nat.div_eq_of_lt hd, Nat.div_eq_of_lt hd'] using this
      have hdigit : d = d' := by
        rw [hdiv] at hacc
        exact Nat.add_left_cancel hacc
      refine ⟨hdiv, ?_⟩
      rw [List.map_cons, List.map_cons, hlower, toLower_of_digitValue? hc, toLower_of_digitValue? hc', hdigit]

/-- Zeros may lead. -/
theorem valueFrom?_replicate_zero (hb : 0 < base) (width : Nat) (cs : List Char) :
    valueFrom? base 0 (List.replicate width '0' ++ cs) = valueFrom? base 0 cs := by
  have hzero : digitValue? '0' = some 0 := by decide
  induction width with
  | zero => rfl
  | succ width ih =>
    rw [List.replicate_succ, List.cons_append, valueFrom?, hzero]
    simp only [hb, if_true, Nat.zero_mul, Nat.add_zero, ih]

/-! ## Words of 64 bits -/

theorem word?_eq_some_iff {m : Nat} {n : UInt64} : word? m = some n ↔ n.toNat = m := by
  unfold word?
  split
  · next hlt =>
    have hm : (UInt64.ofNat m).toNat = m := UInt64.toNat_ofNat_of_lt hlt
    rw [Option.some.injEq, ← UInt64.toNat_inj, hm, eq_comm]
  · next hlt =>
    simp only [reduceCtorEq, false_iff]
    rintro rfl
    exact hlt (UInt64.toNat_lt n)

/-- Without a sign there are only digits. -/
theorem signedWord?_eq_some_iff {cs : List Char} (hsign : '+' ∉ cs) {n : UInt64} :
    signedWord? base cs = some n ↔ value? base cs = some n.toNat := by
  have hdigits : signedWord? base cs = (value? base cs).bind word? := by
    unfold signedWord?
    split
    · next rest => simp at hsign
    · rfl
  simp only [hdigits, Option.bind_eq_some_iff, word?_eq_some_iff]
  constructor
  · rintro ⟨m, hm, rfl⟩
    exact hm
  · intro h
    exact ⟨n.toNat, h, rfl⟩

end Numeral
end WalletSession
