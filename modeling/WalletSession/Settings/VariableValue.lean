import WalletSession.Text.Blank
import WalletSession.Toml.Scalar

set_option autoImplicit false

/-! # Values of environment variables

The value of a variable is a text that may stand for a boolean, a number, a character or string in quotes, a list
in brackets or a table in braces. A text that is none of these stands for itself. -/

namespace WalletSession
namespace VariableValue

/-! ## Numbers -/

/-- A whole number with an optional plus sign. -/
def unsigned? (cs : List Char) : Option SettingValue := (Numeral.signedWord? 10 cs).map fun n => .unsigned n.toNat

/-- A negative whole number of 64 bits. -/
def signed? (cs : List Char) : Option SettingValue :=
  match cs with
  | '-' :: digits =>
    (Numeral.value? 10 digits).bind fun n => if n ≤ 0x8000000000000000 then some (.signed (-(n : Int))) else none
  | _ => none

/-- A number of digits with a point anywhere among them: the number without its point, and the number of digits
behind the point. -/
def mantissa? (cs : List Char) : Option (Nat × Nat) := do
  let (whole, fraction) ← Text.splitFirst '.' cs
  let digits := whole ++ fraction
  if digits.all isAsciiDigit then (Numeral.value? 10 digits).map fun n => (n, fraction.length) else none

/-- A number with a point, and perhaps an exponent. -/
def double? (cs : List Char) : Option SettingValue := do
  let (negative, rest) := Toml.splitSign cs
  let (mantissa, exponent?) := Toml.splitExponent rest
  let exponent ← match exponent? with
    | none => some (0 : Int)
    | some part =>
      let (down, digits) := Toml.splitSign part
      (Numeral.value? 10 digits).map fun n => if down then -(n : Int) else n
  let exponent := if exponent < -100000 then -100000 else if 100000 < exponent then 100000 else exponent
  let (n, places) ← mantissa? mantissa
  let x := Toml.scaled n (exponent - places)
  return .double (if negative then -x else x)

/-! ## Values -/

/-- Whether a character ends a text without quotes. -/
def isSeparator (c : Char) : Bool := c == ',' || c == '\x7b' || c == '\x7d' || c == '[' || c == ']'

/-- What a text without quotes stands for. -/
def ofWord (cs : List Char) : SettingValue :=
  let word := Text.strip Text.isBlank cs
  if word.isEmpty then .nothing
  else if word = ['t', 'r', 'u', 'e'] then .bool true
  else if word = ['f', 'a', 'l', 's', 'e'] then .bool false
  else
    match unsigned? word, signed? word, double? word with
    | some v, _, _ => v
    | none, some v, _ => v
    | none, none, some v => v
    | none, none, none => .text (String.ofList word)

/-- The text behind blanks. -/
def skipBlanks (cs : List Char) : List Char := cs.dropWhile Text.isAsciiBlank

/-- The key of an entry in braces and the text behind its equals sign. -/
def scanEntryKey (cs : List Char) : Option (List Char) :=
  match skipBlanks cs with
  | '\'' :: _ => none
  | cs =>
    match (Toml.scanKeyPart cs).map fun found => skipBlanks found.2 with
    | some ('=' :: rest) => some rest
    | _ => none

mutual

/-- A value with blanks around it. -/
def scan : (steps : Nat) → Toml.Scanner SettingValue
  | 0, _ => none
  | steps + 1, cs =>
    let found : Option (SettingValue × List Char) := match skipBlanks cs with
      | '"' :: rest => (Toml.scanBasic (rest.length + 1) [] rest).map fun found => (.text found.1, found.2)
      | '\'' :: c :: '\'' :: rest => some (.char c, rest)
      | '\'' :: _ => none
      | '[' :: rest => scanItems steps [] rest
      | '\x7b' :: rest => scanEntries steps rest
      | cs => some (ofWord (cs.takeWhile (!isSeparator ·)), cs.dropWhile (!isSeparator ·))
    found.map fun found => (found.1, skipBlanks found.2)

/-- The rest of a list, the items read so far given last first. -/
def scanItems : (steps : Nat) → List SettingValue → Toml.Scanner SettingValue
  | 0, _, _ => none
  | _ + 1, items, ']' :: rest => some (.list items.reverse, rest)
  | steps + 1, items, cs =>
    match scan steps cs with
    | some (item, ',' :: rest) => scanItems steps (item :: items) rest
    | some (item, ']' :: rest) => some (.list (item :: items).reverse, rest)
    | _ => none

/-- The rest of a table. -/
def scanEntries : (steps : Nat) → Toml.Scanner SettingValue
  | 0, _ => none
  | _ + 1, '\x7d' :: rest => some (.table, rest)
  | steps + 1, cs =>
    match scanEntryKey cs with
    | none => none
    | some rest =>
      match scan steps rest with
      | some (_, ',' :: rest) => scanEntries steps rest
      | some (_, '\x7d' :: rest) => some (.table, rest)
      | _ => none

end

/-- What the text of a variable stands for. -/
def parse (text : String) : SettingValue :=
  let cs := text.toList
  match scan (2 * cs.length + 2) cs with
  | some (v, []) => v
  | _ => .text text

end VariableValue
end WalletSession
