import WalletSession.Numeral

set_option autoImplicit false

/-! # Shortest decimals

The decimal with the fewest digits that reads back as a given double, and among those the nearest to it. All
of it is exact arithmetic on natural numbers: a positive double is a fraction, the reals that round to it form
an interval around it, and for one digit, two digits, and so on, the two neighbours of the double on that
decimal grid are tried until one lies in the interval.

`Layout` says how such a decimal is written down. -/

namespace WalletSession
namespace Decimal

/-! ## Doubles as fractions -/

/-- A positive real with the interval of reals that round to it, over a common denominator. -/
structure Rounding where
  value : Nat
  low : Nat
  high : Nat
  denominator : Nat
  /-- Whether the ends of the interval belong to it. -/
  closed : Bool

/-- The rounding interval of the double with significand `m` and exponent `q`, of value `m * 2 ^ q`; `narrow`
says that the gap below is half the gap above. -/
def Rounding.ofScaled (m : Nat) (q : Int) (narrow : Bool) : Rounding :=
  let up := Nat.pow 2 (q - 2).toNat
  { value := 4 * m * up
    low := (4 * m - if narrow then 1 else 2) * up
    high := (4 * m + 2) * up
    denominator := Nat.pow 2 (2 - q).toNat
    closed := m % 2 == 0 }

/-- The number of doubles that share their sign and exponent: the fraction has 52 bits. -/
def fractions : Nat := 0x10000000000000

/-- The number of exponents of doubles; the last one stands for infinities and for what is not a number. -/
def exponents : Nat := 0x800

/-- The rounding interval of a finite positive double, from its bits. -/
def Rounding.ofBits (bits : UInt64) : Rounding :=
  let fraction := bits.toNat % fractions
  let exponent : Nat := bits.toNat / fractions % exponents
  if exponent = 0 then .ofScaled fraction (-1074) false
  else .ofScaled (fractions + fraction) ((exponent : Int) - 1075) (fraction == 0 && exponent != 1)

/-! ## The decimal grid -/

/-- A decimal: the digits of `digits` followed by `exponent` zeros, or with the point moved that far left. -/
structure Scientific where
  digits : Nat
  exponent : Int
deriving DecidableEq

/-- Whether `n * 10 ^ k` lies in the interval. -/
def Rounding.holds (r : Rounding) (n : Nat) (k : Int) : Bool :=
  let point := n * Nat.pow 10 k.toNat * r.denominator
  let scale := Nat.pow 10 (-k).toNat
  if r.closed then r.low * scale ≤ point && point ≤ r.high * scale
  else r.low * scale < point && point < r.high * scale

/-- The largest `n` with `n * 10 ^ k` at most the value. -/
def Rounding.floor (r : Rounding) (k : Int) : Nat :=
  r.value * Nat.pow 10 (-k).toNat / (r.denominator * Nat.pow 10 k.toNat)

/-- Whether `(n + 1) * 10 ^ k` is nearer to the value than `n * 10 ^ k`; a tie goes to the even one. -/
def Rounding.nearerAbove (r : Rounding) (n : Nat) (k : Int) : Bool :=
  let twice := 2 * r.value * Nat.pow 10 (-k).toNat
  let middle := (2 * n + 1) * Nat.pow 10 k.toNat * r.denominator
  middle < twice || (middle == twice && n % 2 == 1)

/-- The power of ten at or below the value. -/
def Rounding.magnitude (r : Rounding) : Int :=
  if r.denominator ≤ r.value then ((Numeral.digits 10 (r.value / r.denominator)).length : Int) - 1
  else
    match (List.range 400).find? fun j => r.denominator ≤ r.value * Nat.pow 10 j with
    | some j => -(j : Int)
    | none => -400

/-- A neighbour of the value on the grid of `count` digits that lies in the interval. -/
def Rounding.onGrid? (r : Rounding) (count : Nat) : Option Scientific :=
  let k := r.magnitude - ((count : Int) - 1)
  let n := r.floor k
  match r.holds n k, r.holds (n + 1) k with
  | true, true => some ⟨if r.nearerAbove n k then n + 1 else n, k⟩
  | true, false => some ⟨n, k⟩
  | false, true => some ⟨n + 1, k⟩
  | false, false => none

/-- Move trailing zeros into the exponent. -/
def Scientific.reduced (d : Scientific) : Scientific :=
  let zeros := ((Numeral.digits 10 d.digits).reverse.takeWhile (· == '0')).length
  if d.digits = 0 then ⟨0, 0⟩ else ⟨d.digits / Nat.pow 10 zeros, d.exponent + zeros⟩

/-- The shortest decimal that reads back, nearest to the value. -/
def Rounding.shortest (r : Rounding) : Scientific :=
  (((List.range 17).findSome? fun i => r.onGrid? (i + 1)).getD
    ⟨r.floor (r.magnitude - 16), r.magnitude - 16⟩).reduced

/-! ## Writing -/

/-- How a decimal is written. -/
structure Layout where
  /-- Whether the point, this many places right of the first digit, is written in place. -/
  positional : Int → Bool
  /-- Whether a whole number ends in a point and a zero. -/
  wholeFraction : Bool
  infinity : String
  notANumber : String

/-- The digits with the point `place` places after the first digit's left edge. -/
def Scientific.positional (d : Scientific) (wholeFraction : Bool) : List Char :=
  let digits := Numeral.digits 10 d.digits
  let place : Int := digits.length + d.exponent
  if 0 ≤ d.exponent then
    digits ++ List.replicate d.exponent.toNat '0' ++ (if wholeFraction then ['.', '0'] else [])
  else if 0 < place then digits.take place.toNat ++ '.' :: digits.drop place.toNat
  else ['0', '.'] ++ List.replicate (-place).toNat '0' ++ digits

/-- One digit, the others after a point, and the power of ten with its sign and at least two digits. -/
def Scientific.exponential (d : Scientific) : List Char :=
  let digits := Numeral.digits 10 d.digits
  let power : Int := digits.length + d.exponent - 1
  let powerDigits := Numeral.digits 10 power.natAbs
  digits.take 1 ++ (if digits.length = 1 then [] else '.' :: digits.drop 1) ++
    ['e', if power < 0 then '-' else '+'] ++
    (if powerDigits.length = 1 then '0' :: powerDigits else powerDigits)

/-- The text of a double. -/
def text (layout : Layout) (x : Float) : String :=
  let bits := x.toBits
  let negative := fractions * exponents ≤ bits.toNat
  let sign := if negative then "-" else ""
  if bits.toNat / fractions % exponents = exponents - 1 then
    if bits.toNat % fractions = 0 then sign ++ layout.infinity else layout.notANumber
  else
    let d : Scientific := if bits.toNat % (fractions * exponents) = 0 then ⟨0, 0⟩ else (Rounding.ofBits bits).shortest
    let place : Int := (Numeral.digits 10 d.digits).length + d.exponent
    let cs := if layout.positional place then d.positional layout.wholeFraction else d.exponential
    sign ++ String.ofList cs

end Decimal
end WalletSession
