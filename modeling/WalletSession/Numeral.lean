set_option autoImplicit false

/-! # Numerals

Digits in a base from two to sixteen: `Numeral.value?` reads a list of digits, `Numeral.digits` writes a
number with the fewest digits, in lower case. Reading undoes writing (`Numeral.value?_digits`). The readers
of 64-bit words at the end are what identifiers and settings use. -/

namespace WalletSession
namespace Numeral

/-! ## Digits -/

/-- The value of a decimal or hexadecimal digit of either case. -/
def digitValue? (c : Char) : Option Nat :=
  if '0' ≤ c ∧ c ≤ '9' then some (c.toNat - '0'.toNat)
  else if 'a' ≤ c ∧ c ≤ 'f' then some (c.toNat - 'a'.toNat + 10)
  else if 'A' ≤ c ∧ c ≤ 'F' then some (c.toNat - 'A'.toNat + 10)
  else none

/-- Whether `c` is a digit of `base`. -/
def isDigit (base : Nat) (c : Char) : Bool :=
  match digitValue? c with
  | some d => d < base
  | none => false

/-- The digit of value `d`, in lower case. -/
def digit (d : Nat) : Char :=
  if d < 10 then Char.ofNat ('0'.toNat + d) else Char.ofNat ('a'.toNat + (d - 10))

/-- The value of digits of `base`, most significant first, continuing from `acc`; nothing for another
character. -/
def valueFrom? (base : Nat) (acc : Nat) : List Char → Option Nat
  | [] => some acc
  | c :: rest =>
    match digitValue? c with
    | some d => if d < base then valueFrom? base (acc * base + d) rest else none
    | none => none

/-- The value of one or more digits of `base`. -/
def value? (base : Nat) (digits : List Char) : Option Nat :=
  if digits.isEmpty then none else valueFrom? base 0 digits

/-- The digits of `n` in `base`, most significant first, in front of `tail`. -/
def digitsOnto (base : Nat) (n : Nat) (tail : List Char) : List Char :=
  if _ : 2 ≤ base ∧ base ≤ n then
    digitsOnto base (n / base) (digit (n % base) :: tail)
  else digit n :: tail
termination_by n
decreasing_by exact Nat.div_lt_self (by omega) (by omega)

/-- The digits of `n` in `base`, without leading zeros. -/
def digits (base n : Nat) : List Char := digitsOnto base n []

/-! ## Reading undoes writing -/

theorem digitValue?_digit {d : Nat} (h : d < 16) : digitValue? (digit d) = some d := by
  have : ∀ d : Fin 16, digitValue? (digit d) = some d.val := by decide
  exact this ⟨d, h⟩

theorem valueFrom?_digitsOnto {base : Nat} (hb : 2 ≤ base) (hb' : base ≤ 16) (n : Nat) (tail : List Char) :
    ∃ factor, ∀ acc,
      valueFrom? base acc (digitsOnto base n tail) = valueFrom? base (acc * factor + n) tail := by
  fun_induction digitsOnto base n tail with
  | case1 n tail h ih =>
    obtain ⟨factor, hfactor⟩ := ih
    refine ⟨factor * base, fun acc => ?_⟩
    rw [hfactor acc, valueFrom?, digitValue?_digit (Nat.lt_of_lt_of_le (Nat.mod_lt _ (by omega)) hb')]
    simp only [Nat.mod_lt n (show base > 0 by omega), if_true]
    congr 1
    rw [Nat.add_mul, Nat.mul_assoc, Nat.add_assoc, Nat.div_add_mod' n base]
  | case2 n tail h =>
    refine ⟨base, fun acc => ?_⟩
    have hn : n < base := by omega
    rw [valueFrom?, digitValue?_digit (by omega)]
    simp [hn]

theorem digitsOnto_ne_nil (base n : Nat) (tail : List Char) : digitsOnto base n tail ≠ [] := by
  fun_induction digitsOnto base n tail with
  | case1 n tail h ih => exact ih
  | case2 n tail h => simp

/-- **Reading undoes writing.** -/
theorem value?_digits {base : Nat} (hb : 2 ≤ base) (hb' : base ≤ 16) (n : Nat) :
    value? base (digits base n) = some n := by
  obtain ⟨factor, hfactor⟩ := valueFrom?_digitsOnto hb hb' n []
  have hne : (digits base n).isEmpty = false := by
    simpa [digits] using digitsOnto_ne_nil base n []
  rw [value?, hne]
  simp [digits, hfactor 0, valueFrom?]

/-! ## Texts -/

/-- The decimal text of `n`. -/
def decimal (n : Nat) : String := String.ofList (digits 10 n)

/-- The hexadecimal text of `n`, in lower case and without a mark. -/
def hex (n : Nat) : String := String.ofList (digits 16 n)

/-- The decimal text of an integer, with a minus sign if it is negative. -/
def signed (n : Int) : String :=
  if n < 0 then "-" ++ decimal n.natAbs else decimal n.natAbs

/-! ## Words of 64 bits -/

/-- The number as a 64-bit word, if it fits. -/
def word? (n : Nat) : Option UInt64 := if n < UInt64.size then some (UInt64.ofNat n) else none

/-- A 64-bit word written with digits of `base` and an optional plus sign. -/
def signedWord? (base : Nat) (cs : List Char) : Option UInt64 :=
  let digits := match cs with
    | '+' :: rest => rest
    | _ => cs
  (value? base digits).bind word?

end Numeral
end WalletSession
