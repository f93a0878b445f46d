import WalletSession.Settings.Value
import WalletSession.Text.Split
import WalletSession.Toml.Scanner

set_option autoImplicit false

/-! # Numbers and dates of TOML

Values that are written without quotes and brackets: booleans, whole numbers in four bases, numbers with a
fraction or an exponent, dates and times. -/

namespace WalletSession
namespace Toml

/-! ## Numbers -/

/-- The digits of a numeral, in which single underscores may stand between digits. -/
def digits? (base : Nat) (cs : List Char) : Option (List Char) :=
  let parts := Text.splitAll '_' cs
  if parts.all fun part => !part.isEmpty && part.all (Numeral.isDigit base) then some parts.flatten else none

/-- The value of a numeral. -/
def natural? (base : Nat) (cs : List Char) : Option Nat := (digits? base cs).bind (Numeral.value? base)

/-- The sign of a number and what stands behind it. -/
def splitSign : List Char → Bool × List Char
  | '-' :: rest => (true, rest)
  | '+' :: rest => (false, rest)
  | cs => (false, cs)

/-- A whole number as a setting: it is read in 64 bits with a sign if it fits, then without a sign, then likewise
in 128 bits. -/
def wholeValue? (n : Int) : Option SettingValue :=
  if -0x80000000000000000000000000000000 ≤ n ∧ n < 0x8000000000000000 then some (.signed n)
  else if 0 ≤ n ∧ n < 0x10000000000000000 then some (.unsigned n.toNat)
  else if 0 ≤ n ∧ n < 0x80000000000000000000000000000000 then some (.signed n)
  else if 0 ≤ n ∧ n < 0x100000000000000000000000000000000 then some (.unsigned n.toNat)
  else none

/-- Digits without a zero in front of others. -/
def isDecimalPart (digits : List Char) : Bool := digits.length == 1 || digits.head? != some '0'

/-- A whole number. -/
def integer? (cs : List Char) : Option SettingValue :=
  match cs with
  | '0' :: 'x' :: rest => (natural? 16 rest).bind (wholeValue? ·)
  | '0' :: 'o' :: rest => (natural? 8 rest).bind (wholeValue? ·)
  | '0' :: 'b' :: rest => (natural? 2 rest).bind (wholeValue? ·)
  | _ =>
    let (negative, rest) := splitSign cs
    if isDecimalPart rest then
      (natural? 10 rest).bind fun n => wholeValue? (if negative then -(n : Int) else n)
    else none

/-- The exponent of a number and what stands before it. -/
def splitExponent (cs : List Char) : List Char × Option (List Char) :=
  match cs.dropWhile fun c => c != 'e' && c != 'E' with
  | [] => (cs, none)
  | _ :: rest => (cs.takeWhile fun c => c != 'e' && c != 'E', some rest)

/-- The double of a whole number times a power of ten. -/
def scaled (n : Nat) (exponent : Int) : Float :=
  Float.ofScientific n (exponent < 0) exponent.natAbs

/-- A number with a fraction or an exponent. -/
def double? (cs : List Char) : Option Float := do
  let (negative, rest) := splitSign cs
  let sign := fun (x : Float) => if negative then -x else x
  if rest = ['i', 'n', 'f'] then return sign (1.0 / 0.0)
  if rest = ['n', 'a', 'n'] then return sign (0.0 / 0.0)
  let (mantissa, exponent?) := splitExponent rest
  let exponent ← match exponent? with
    | none => some (0 : Int)
    | some part =>
      let (down, digits) := splitSign part
      (natural? 10 digits).map fun n => if down then -(n : Int) else n
  let exponent := if exponent < -100000 then -100000 else if 100000 < exponent then 100000 else exponent
  match Text.splitFirst '.' mantissa with
  | some (whole, fraction) =>
    let whole ← digits? 10 whole
    let fraction ← digits? 10 fraction
    if isDecimalPart whole then
      return sign (scaled (← Numeral.value? 10 (whole ++ fraction)) (exponent - fraction.length))
    else none
  | none =>
    let whole ← digits? 10 mantissa
    if exponent?.isSome && isDecimalPart whole then return sign (scaled (← Numeral.value? 10 whole) exponent)
    else none

/-! ## Dates and times -/

/-- A number of exactly `count` digits from `least` to `most`. -/
def isField (count least most : Nat) (cs : List Char) : Bool :=
  cs.length == count && cs.all isAsciiDigit && (Numeral.value? 10 cs).any fun n => least ≤ n && n ≤ most

/-- The days of a month. -/
def daysOf (year month : Nat) : Nat :=
  if month = 2 then if year % 4 = 0 ∧ (year % 100 ≠ 0 ∨ year % 400 = 0) then 29 else 28
  else if month = 4 ∨ month = 6 ∨ month = 9 ∨ month = 11 then 30 else 31

/-- Whether a text is a date: year, month and day. -/
def isDate (cs : List Char) : Bool :=
  match Text.splitAll '-' cs with
  | [year, month, day] =>
    let number := fun part => (Numeral.value? 10 part).getD 0
    isField 4 0 9999 year && isField 2 1 12 month && isField 2 1 (daysOf (number year) (number month)) day
  | _ => false

/-- Whether a text is the seconds of a time, with or without a fraction. -/
def isSeconds (cs : List Char) : Bool :=
  match Text.splitFirst '.' cs with
  | some (whole, fraction) => isField 2 0 60 whole && !fraction.isEmpty && fraction.all isAsciiDigit
  | none => isField 2 0 60 cs

/-- Whether a text is a time: hours, minutes, and seconds that may be left out. -/
def isTime (cs : List Char) : Bool :=
  match Text.splitAll ':' cs with
  | [hour, minute] => isField 2 0 23 hour && isField 2 0 59 minute
  | [hour, minute, second] => isField 2 0 23 hour && isField 2 0 59 minute && isSeconds second
  | _ => false

/-- Whether a text is a time with or without its distance from universal time. -/
def isZonedTime (cs : List Char) : Bool :=
  isTime cs ||
    (let clock := cs.takeWhile fun c => !(c == 'Z' || c == 'z' || c == '+' || c == '-')
     isTime clock &&
      match cs.drop clock.length with
      | ['Z'] | ['z'] => true
      | '+' :: offset | '-' :: offset =>
        match Text.splitAll ':' offset with
        | [hour, minute] => isField 2 0 23 hour && isField 2 0 59 minute
        | _ => false
      | _ => false)

/-- Whether a text is a date, a time, or both. -/
def isDateTime (cs : List Char) : Bool :=
  isDate cs || isTime cs ||
    (isDate (cs.take 10) &&
      match cs.drop 10 with
      | 'T' :: time | 't' :: time | ' ' :: time => isZonedTime time
      | _ => false)

/-! ## Words -/

/-- Whether a character may stand in a value without quotes. -/
def isWordChar (c : Char) : Bool := isKeyChar c || c == '+' || c == '.' || c == ':'

/-- The value of a word. -/
def wordValue? (word : List Char) : Option SettingValue :=
  if word = ['t', 'r', 'u', 'e'] then some (.bool true)
  else if word = ['f', 'a', 'l', 's', 'e'] then some (.bool false)
  else if isDateTime word then some .table
  else (integer? word).orElse fun _ => (double? word).map .double

/-- A value without quotes and brackets; a date may be followed by a blank and a time. -/
def scanWord (cs : List Char) : Option (SettingValue × List Char) :=
  let word := cs.takeWhile isWordChar
  let rest := cs.drop word.length
  let short := (wordValue? word).map fun v => (v, rest)
  match rest with
  | ' ' :: more =>
    let time := more.takeWhile isWordChar
    if isDate word && time.head?.any isAsciiDigit then
      (wordValue? (word ++ ' ' :: time)).map fun v => (v, more.drop time.length)
    else short
  | _ => short

end Toml
end WalletSession
