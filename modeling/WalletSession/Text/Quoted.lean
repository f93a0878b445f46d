import WalletSession.Numeral
import WalletSession.Text.Printable

set_option autoImplicit false

/-! # Quoted text

A text in double quotes, as messages show it: the usual escapes for tab, line feed, carriage return, NUL,
backslash and the quote, the printable characters as they are, and everything else, grapheme extenders
included, as its code point in hexadecimal. -/

namespace WalletSession
namespace Text

/-- A character by its code point, as in `\u{301}`. -/
def codePointEscape (c : Char) : List Char :=
  ['\\', 'u', '\x7b'] ++ Numeral.digits 16 c.toNat ++ ['\x7d']

/-- How a character is written between quotes. -/
def quotedChar (c : Char) : List Char :=
  if c = '\x00' then ['\\', '0']
  else if c = '\t' then ['\\', 't']
  else if c = '\n' then ['\\', 'n']
  else if c = '\r' then ['\\', 'r']
  else if c = '\\' then ['\\', '\\']
  else if c = '"' then ['\\', '"']
  else if c.toNat < 0x7f ∧ 0x20 ≤ c.toNat then [c]
  else if isGraphemeExtender c then codePointEscape c
  else if isPrintable c then [c]
  else codePointEscape c

/-- A text in double quotes. -/
def quoted (s : String) : String :=
  String.ofList ('"' :: s.toList.flatMap quotedChar ++ ['"'])

end Text
end WalletSession
