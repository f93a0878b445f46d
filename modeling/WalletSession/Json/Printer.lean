import WalletSession.Decimal.Shortest
import WalletSession.Json.Basic

set_option autoImplicit false

/-! # Writing JSON

`Json.compact` writes a value on one line, `Json.pretty` with one item a line and two spaces a level. Strings
escape the quote, the backslash and the control characters below the space, doubles are written with the
fewest digits that read back. -/

namespace WalletSession
namespace Json

/-- A double is written in place if its point lies at most sixteen places right of its first digit and less
than five zeros before it; a whole one keeps a point and a zero. -/
def numberLayout : Decimal.Layout where
  positional place := -5 < place && place ≤ 16
  wholeFraction := true
  infinity := "inf"
  notANumber := "NaN"

/-- How a character is written inside a string. -/
def stringChar (c : Char) : List Char :=
  if c = '"' then ['\\', '"']
  else if c = '\\' then ['\\', '\\']
  else if c = '\x08' then ['\\', 'b']
  else if c = '\x0c' then ['\\', 'f']
  else if c = '\n' then ['\\', 'n']
  else if c = '\r' then ['\\', 'r']
  else if c = '\t' then ['\\', 't']
  else if c.toNat < 0x20 then
    ['\\', 'u', '0', '0', Numeral.digit (c.toNat / 16), Numeral.digit (c.toNat % 16)]
  else [c]

/-- A string with its quotes. -/
def stringText (s : String) : String :=
  String.ofList ('"' :: s.toList.flatMap stringChar ++ ['"'])

/-- The text of a double; a value that JSON has no number for is `null`. -/
def doubleText (x : Float) : String :=
  if x.isFinite then Decimal.text numberLayout x else "null"

/-- Texts joined by a separator. -/
def joined (separator : String) : List String → String
  | [] => ""
  | first :: rest => rest.foldl (fun acc s => acc ++ separator ++ s) first

/-! ## One line -/

mutual

/-- The text of a value on one line. -/
def compact : Json → String
  | .null => "null"
  | .bool true => "true"
  | .bool false => "false"
  | .integer n => Numeral.signed n
  | .double x => doubleText x
  | .string s => stringText s
  | .array items => "[" ++ joined "," (compactItems items) ++ "]"
  | .object fields => "\x7b" ++ joined "," (compactFields fields) ++ "\x7d"

/-- The texts of items. -/
def compactItems : List Json → List String
  | [] => []
  | item :: rest => compact item :: compactItems rest

/-- The texts of fields. -/
def compactFields : List (String × Json) → List String
  | [] => []
  | (key, value) :: rest => (stringText key ++ ":" ++ compact value) :: compactFields rest

end

/-! ## One item a line -/

/-- Items between brackets, one a line, indented to `level`; nothing between the brackets if there is none. -/
def block (opening closing : String) (level : Nat) (items : List String) : String :=
  if items.isEmpty then opening ++ closing
  else
    let newline (level : Nat) := String.ofList ('\n' :: List.replicate (2 * level) ' ')
    opening ++ newline (level + 1) ++ joined ("," ++ newline (level + 1)) items ++ newline level ++ closing

mutual

/-- The text of a value with one item a line, for a value at nesting depth `level`. -/
def prettyAt : (level : Nat) → Json → String
  | level, .array items => block "[" "]" level (prettyItems (level + 1) items)
  | level, .object fields => block "\x7b" "\x7d" level (prettyFields (level + 1) fields)
  | _, .null => "null"
  | _, .bool true => "true"
  | _, .bool false => "false"
  | _, .integer n => Numeral.signed n
  | _, .double x => doubleText x
  | _, .string s => stringText s

/-- The texts of items. -/
def prettyItems : (level : Nat) → List Json → List String
  | _, [] => []
  | level, item :: rest => prettyAt level item :: prettyItems level rest

/-- The texts of fields. -/
def prettyFields : (level : Nat) → List (String × Json) → List String
  | _, [] => []
  | level, (key, value) :: rest =>
    (stringText key ++ ": " ++ prettyAt level value) :: prettyFields level rest

end

/-- The text of a value with one item a line. -/
def pretty (value : Json) : String := prettyAt 0 value

end Json
end WalletSession
