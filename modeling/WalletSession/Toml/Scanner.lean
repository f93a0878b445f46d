import WalletSession.ChainId
import WalletSession.Numeral

set_option autoImplicit false

/-! # Tokens of TOML

Blanks, comments, strings and keys. A scanner takes the text still to be read and returns what it found and
the text behind it, or nothing if the text is not TOML. -/

namespace WalletSession
namespace Toml

/-- A scanner. -/
abbrev Scanner (α : Type) := List Char → Option (α × List Char)

/-! ## Blanks -/

/-- Whether a character is a blank inside a line. -/
def isBlank (c : Char) : Bool := c == ' ' || c == '\t'

/-- Whether a character may stand in comments and strings of one line. -/
def isPlain (c : Char) : Bool := c == '\t' || (0x20 ≤ c.toNat && c.toNat != 0x7f)

/-- The text behind blanks. -/
def skipBlanks (cs : List Char) : List Char := cs.dropWhile isBlank

/-- The text behind the end of a line, if there is one here. -/
def lineBreak? : List Char → Option (List Char)
  | '\n' :: rest => some rest
  | '\r' :: '\n' :: rest => some rest
  | _ => none

/-- The text behind a comment, if there is one here. -/
def skipComment : List Char → List Char
  | '#' :: rest => rest.dropWhile isPlain
  | cs => cs

/-- The text behind the rest of a line that holds nothing more. -/
def endLine? (cs : List Char) : Option (List Char) :=
  match skipComment (skipBlanks cs) with
  | [] => some []
  | rest => lineBreak? rest

/-- The text behind blanks, comments and line breaks. -/
def skipLines : (steps : Nat) → List Char → List Char
  | 0, cs => cs
  | steps + 1, cs =>
    let rest := skipComment (skipBlanks cs)
    match lineBreak? rest with
    | some next => skipLines steps next
    | none => rest

/-! ## Strings -/

/-- The character with a code point of `count` hexadecimal digits. -/
def scanCodePoint (count : Nat) (cs : List Char) : Option (Char × List Char) :=
  let digits := cs.take count
  if digits.length = count then
    (Numeral.value? 16 digits).bind fun n =>
      if n.isValidChar then some (Char.ofNat n, cs.drop count) else none
  else none

/-- What an escape stands for, behind its backslash. -/
def scanEscape : Scanner Char
  | 'b' :: rest => some ('\x08', rest)
  | 't' :: rest => some ('\t', rest)
  | 'n' :: rest => some ('\n', rest)
  | 'f' :: rest => some ('\x0c', rest)
  | 'r' :: rest => some ('\r', rest)
  | 'e' :: rest => some ('\x1b', rest)
  | '"' :: rest => some ('"', rest)
  | '\\' :: rest => some ('\\', rest)
  | 'x' :: rest => scanCodePoint 2 rest
  | 'u' :: rest => scanCodePoint 4 rest
  | 'U' :: rest => scanCodePoint 8 rest
  | _ => none

/-- The rest of a string in double quotes; `read` is what was read so far, last character first. -/
def scanBasic : (steps : Nat) → (read : List Char) → Scanner String
  | 0, _, _ | _, _, [] => none
  | _ + 1, read, '"' :: rest => some (String.ofList read.reverse, rest)
  | steps + 1, read, '\\' :: rest =>
    match scanEscape rest with
    | some (c, rest) => scanBasic steps (c :: read) rest
    | none => none
  | steps + 1, read, c :: rest => if isPlain c then scanBasic steps (c :: read) rest else none

/-- The rest of a string in single quotes. -/
def scanLiteral (cs : List Char) : Option (String × List Char) :=
  match cs.dropWhile (fun c => isPlain c && c != '\'') with
  | '\'' :: rest => some (String.ofList (cs.takeWhile (· != '\'')), rest)
  | _ => none

/-- The quotes that belong to the text of a string with triple quotes, and the text behind its end. -/
def closeTriple? (quote : Char) (cs : List Char) : Option (List Char × List Char) :=
  let count := min 5 (cs.takeWhile (· == quote)).length
  if 3 ≤ count then some (List.replicate (count - 3) quote, cs.drop count) else none

/-- The text behind a backslash that ends a line, all blanks and line breaks after it left out. -/
def joinLines? (cs : List Char) : Option (List Char) :=
  (lineBreak? (skipBlanks cs)).map fun rest =>
    rest.dropWhile fun c => isBlank c || c == '\n' || c == '\r'

/-- The rest of a string with triple quotes; `escapes` says whether a backslash is special. -/
def scanTriple (quote : Char) (escapes : Bool) : (steps : Nat) → (read : List Char) → Scanner String
  | 0, _, _ | _, _, [] => none
  | steps + 1, read, c :: rest =>
    match closeTriple? quote (c :: rest) with
    | some (quotes, rest) => some (String.ofList (read.reverse ++ quotes), rest)
    | none =>
      if escapes && c == '\\' then
        match joinLines? rest with
        | some rest => scanTriple quote escapes steps read rest
        | none =>
          match scanEscape rest with
          | some (x, rest) => scanTriple quote escapes steps (x :: read) rest
          | none => none
      else
        match lineBreak? (c :: rest) with
        | some rest => scanTriple quote escapes steps ('\n' :: read) rest
        | none => if isPlain c then scanTriple quote escapes steps (c :: read) rest else none

/-- The text behind a line break at the start. -/
def skipFirstBreak (cs : List Char) : List Char := (lineBreak? cs).getD cs

/-- A string, if one starts here. -/
def scanString (cs : List Char) : Option (String × List Char) :=
  match cs with
  | '"' :: '"' :: '"' :: rest => scanTriple '"' true (rest.length + 1) [] (skipFirstBreak rest)
  | '\'' :: '\'' :: '\'' :: rest => scanTriple '\'' false (rest.length + 1) [] (skipFirstBreak rest)
  | '"' :: rest => scanBasic (rest.length + 1) [] rest
  | '\'' :: rest => scanLiteral rest
  | _ => none

/-! ## Keys -/

/-- Whether a character may stand in a key without quotes. -/
def isKeyChar (c : Char) : Bool := isAsciiLetter c || isAsciiDigit c || c == '_' || c == '-'

/-- One part of a key. -/
def scanKeyPart (cs : List Char) : Option (String × List Char) :=
  match cs with
  | '"' :: rest => scanBasic (rest.length + 1) [] rest
  | '\'' :: rest => scanLiteral rest
  | _ =>
    let part := cs.takeWhile isKeyChar
    if part.isEmpty then none else some (String.ofList part, cs.dropWhile isKeyChar)

/-- A key of one or more parts with points between them. -/
def scanKey : (steps : Nat) → Scanner (List String)
  | 0, _ => none
  | steps + 1, cs =>
    match scanKeyPart (skipBlanks cs) with
    | none => none
    | some (part, rest) =>
      match skipBlanks rest with
      | '.' :: rest => (scanKey steps rest).map fun found => (part :: found.1, found.2)
      | rest => some ([part], rest)

end Toml
end WalletSession
