import WalletSession.Json.Basic
import WalletSession.Json.SyntaxError

set_option autoImplicit false

/-! # Numbers in JSON texts

A whole number that fits into 64 bits, signed or unsigned, stays a whole number. Every other number becomes a
double: its leading digits, as many as fit into 64 bits, are rounded to a double once and then multiplied or
divided by a power of ten, so the result may differ from the nearest double in the last bit. -/

namespace WalletSession
namespace Json

/-! ## Digits that fit into a word -/

/-- Whether `c` is a decimal digit. -/
def isDecimalDigit (c : Char) : Bool := '0' ≤ c ∧ c ≤ '9'

/-- Append decimal digits to `acc` while the result stays within `limit`; the second part is the number of
digits appended, the third the digits left over. -/
def appendDigits (limit : Nat) : Nat → List Char → Nat × Nat × List Char
  | acc, [] => (acc, 0, [])
  | acc, c :: rest =>
    let next := acc * 10 + (c.toNat - '0'.toNat)
    if limit < next then (acc, 0, c :: rest)
    else
      let (value, count, left) := appendDigits limit next rest
      (value, count + 1, left)

/-- The largest unsigned 64-bit number. -/
def wordLimit : Nat := 0xffffffffffffffff

/-- The largest exponent that is read digit by digit. -/
def exponentLimit : Nat := 0x7fffffff

/-! ## Scaling -/

/-- The double nearest to a power of ten. -/
def powerOfTen (k : Nat) : Float := Float.ofScientific 1 false k

/-- Multiply or divide by a power of ten, at most by `1e308` at a time; nothing if the result is too large. -/
def scaled? (x : Float) (exponent : Int) : Option Float :=
  if exponent.natAbs ≤ 308 then
    if 0 ≤ exponent then
      let y := x * powerOfTen exponent.natAbs
      if y.isInf then none else some y
    else some (x / powerOfTen exponent.natAbs)
  else if x == 0.0 then some x
  else if h : 0 ≤ exponent then none
  else scaled? (x / powerOfTen 308) (exponent + 308)
termination_by exponent.natAbs
decreasing_by omega

/-- A number as it is read: whether it is positive, its leading digits, and the power of ten they stand for. -/
structure Decimal where
  positive : Bool
  significand : Nat
  exponent : Int

/-- The double a decimal stands for; `place` is where a number that is too large is reported. -/
def Decimal.toJson (d : Decimal) (place : Place) : Except SyntaxError Json :=
  match scaled? (UInt64.ofNat d.significand).toFloat d.exponent with
  | some x => .ok (.double (if d.positive then x else -x))
  | none => .error ⟨.numberOutOfRange, place⟩

/-! ## Reading -/

/-- The digits in front of a cursor and the cursor behind them. -/
def takeDigits (c : Cursor) : List Char × Cursor :=
  (c.rest.takeWhile isDecimalDigit, c.skipWhile isDecimalDigit)

/-- Read an exponent after its mark. -/
def readExponent (d : Decimal) (c : Cursor) : Except SyntaxError (Json × Cursor) := do
  let (upward, c) := match c.rest with
    | '+' :: _ => (true, c.skip)
    | '-' :: _ => (false, c.skip)
    | _ => (true, c)
  let (digits, behind) := takeDigits c
  if digits.isEmpty then
    if c.rest.isEmpty then .error ⟨.endInValue, c.place⟩ else .error ⟨.invalidNumber, c.ahead⟩
  let (value, count, left) := appendDigits exponentLimit 0 digits
  if left.isEmpty then
    let exponent : Int := if upward then d.exponent + value else d.exponent - value
    let number ← { d with exponent }.toJson behind.place
    return (number, behind)
  else if upward && d.significand != 0 then
    .error ⟨.numberOutOfRange, c.place.afterBytes (count + 1) digits⟩
  else
    return (.double (if d.positive then 0.0 else -0.0), behind)

/-- Read an exponent, if there is one. -/
def readOptionalExponent (d : Decimal) (c : Cursor) : Except SyntaxError (Json × Cursor) := do
  match c.rest with
  | 'e' :: _ | 'E' :: _ => readExponent d c.skip
  | _ => return (← d.toJson c.place, c)

/-- Read a fraction after its point, and an exponent. -/
def readFraction (d : Decimal) (c : Cursor) : Except SyntaxError (Json × Cursor) := do
  let (digits, behind) := takeDigits c
  if digits.isEmpty then
    if c.rest.isEmpty then .error ⟨.endInValue, c.place⟩ else .error ⟨.invalidNumber, c.ahead⟩
  let (significand, count, _) := appendDigits wordLimit d.significand digits
  readOptionalExponent { d with significand, exponent := d.exponent - count } behind

/-- Read a number after its sign. -/
def readNumber (positive : Bool) (c : Cursor) : Except SyntaxError (Json × Cursor) := do
  let (digits, behind) ← match c.rest with
    | [] => .error ⟨.endInValue, c.place⟩
    | '0' :: next :: _ =>
      if isDecimalDigit next then .error ⟨.invalidNumber, c.skip.ahead⟩ else pure (['0'], c.skip)
    | first :: _ => if isDecimalDigit first then pure (takeDigits c) else .error ⟨.invalidNumber, c.ahead⟩
  let (significand, _, left) := appendDigits wordLimit 0 digits
  let d : Decimal := ⟨positive, significand, left.length⟩
  match behind.rest with
  | '.' :: _ => readFraction d behind.skip
  | 'e' :: _ | 'E' :: _ => readExponent d behind.skip
  | _ =>
    if !left.isEmpty then return (← d.toJson behind.place, behind)
    else if positive then return (.integer significand, behind)
    else if significand = 0 || 0x8000000000000000 < significand then
      return (.double (-(UInt64.ofNat significand).toFloat), behind)
    else return (.integer (-(significand : Int)), behind)

end Json
end WalletSession
