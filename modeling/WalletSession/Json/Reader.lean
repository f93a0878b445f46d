import WalletSession.Json.Number

set_option autoImplicit false

/-! # Reading JSON texts

`Json.parse` reads a whole text, or says what is wrong with it and where. Arrays and objects may be nested up
to a limit. Every step of the reader passes over at least one character, so the length of the text bounds
the number of steps. -/

namespace WalletSession
namespace Json

/-- The white space of JSON. -/
def isJsonBlank (c : Char) : Bool := c == ' ' || c == '\n' || c == '\t' || c == '\r'

/-- The cursor behind white space. -/
def skipBlank (c : Cursor) : Cursor := c.skipWhile isJsonBlank

/-! ## Strings -/

/-- Four hexadecimal digits after `\u`, and the cursor behind them. -/
def readUnit (c : Cursor) : Except SyntaxError (Nat × Cursor) :=
  match (c.rest.take 4).map Numeral.digitValue? with
  | [some h₁, some h₂, some h₃, some h₄] =>
    .ok (((h₁ * 16 + h₂) * 16 + h₃) * 16 + h₄, c.skip.skip.skip.skip)
  | _ =>
    if (String.ofList (c.rest.take 4)).utf8ByteSize < 4 then
      .error ⟨.endInString, c.rest.foldl Place.after c.place⟩
    else .error ⟨.invalidEscape, c.place.afterBytes 4 c.rest⟩

/-- The code point of a `\u` escape; a surrogate must be the first of a pair. -/
def readUnicodeEscape (c : Cursor) : Except SyntaxError (Char × Cursor) := do
  let (unit, c) ← readUnit c
  if 0xdc00 ≤ unit ∧ unit ≤ 0xdfff then .error ⟨.loneSurrogate, c.place⟩
  if unit < 0xd800 ∨ 0xdbff < unit then return (Char.ofNat unit, c)
  let expect (wanted : Char) (c : Cursor) : Except SyntaxError Cursor :=
    match c.rest with
    | [] => .error ⟨.endInString, c.place⟩
    | x :: _ => if x = wanted then .ok c.skip else .error ⟨.escapeCutShort, c.ahead⟩
  let c ← expect '\\' c
  let c ← expect 'u' c
  let (low, c) ← readUnit c
  if low < 0xdc00 ∨ 0xdfff < low then .error ⟨.loneSurrogate, c.place⟩
  return (Char.ofNat ((unit - 0xd800) * 0x400 + (low - 0xdc00) + 0x10000), c)

/-- What an escape stands for, after its backslash. -/
def readEscape (c : Cursor) : Except SyntaxError (Char × Cursor) :=
  match c.rest with
  | [] => .error ⟨.endInString, c.place⟩
  | '"' :: _ => .ok ('"', c.skip)
  | '\\' :: _ => .ok ('\\', c.skip)
  | '/' :: _ => .ok ('/', c.skip)
  | 'b' :: _ => .ok ('\x08', c.skip)
  | 'f' :: _ => .ok ('\x0c', c.skip)
  | 'n' :: _ => .ok ('\n', c.skip)
  | 'r' :: _ => .ok ('\r', c.skip)
  | 't' :: _ => .ok ('\t', c.skip)
  | 'u' :: _ => readUnicodeEscape c.skip
  | _ => .error ⟨.invalidEscape, c.ahead⟩

/-- The rest of a string up to its closing quote, the characters read so far given last first. -/
def readString (steps : Nat) (read : List Char) (c : Cursor) : Except SyntaxError (String × Cursor) :=
  match steps, c.rest with
  | _, [] | 0, _ => .error ⟨.endInString, c.place⟩
  | _ + 1, '"' :: _ => .ok (String.ofList read.reverse, c.skip)
  | steps + 1, '\\' :: _ => do
    let (x, c) ← readEscape c.skip
    readString steps (x :: read) c
  | steps + 1, x :: _ =>
    if x.toNat < 0x20 then .error ⟨.controlCharacterInString, c.ahead⟩
    else readString steps (x :: read) c.skip

/-! ## Values -/

/-- The rest of a word of which `word` is still to come. -/
def readWord (value : Json) : List Char → Cursor → Except SyntaxError (Json × Cursor)
  | [], c => .ok (value, c)
  | wanted :: word, c =>
    match c.rest with
    | [] => .error ⟨.endInValue, c.place⟩
    | x :: _ => if x = wanted then readWord value word c.skip else .error ⟨.expectedWord, c.ahead⟩

/-- Read a key and the colon behind it. -/
def readKey (steps : Nat) (c : Cursor) : Except SyntaxError (String × Cursor) := do
  let (key, c) ← readString steps [] c.skip
  let c := skipBlank c
  match c.rest with
  | [] => .error ⟨.endInObject, c.place⟩
  | ':' :: _ => return (key, c.skip)
  | _ => .error ⟨.expectedColon, c.ahead⟩

mutual

/-- Read a value; `depth` is the number of arrays and objects that may still be opened. -/
def readValue : (steps depth : Nat) → Cursor → Except SyntaxError (Json × Cursor)
  | 0, _, c => .error ⟨.endInValue, c.place⟩
  | steps + 1, depth, c =>
    let c := skipBlank c
    match c.rest with
    | [] => .error ⟨.endInValue, c.place⟩
    | 'n' :: _ => readWord .null ['u', 'l', 'l'] c.skip
    | 't' :: _ => readWord (.bool true) ['r', 'u', 'e'] c.skip
    | 'f' :: _ => readWord (.bool false) ['a', 'l', 's', 'e'] c.skip
    | '-' :: _ => readNumber false c.skip
    | '"' :: _ => do
      let (s, c) ← readString steps [] c.skip
      return (.string s, c)
    | '[' :: _ =>
      match depth with
      | 0 => .error ⟨.tooDeep, c.ahead⟩
      | depth + 1 => readItems steps depth [] c.skip
    | '\x7b' :: _ =>
      match depth with
      | 0 => .error ⟨.tooDeep, c.ahead⟩
      | depth + 1 => readFields steps depth [] c.skip
    | x :: _ => if isDecimalDigit x then readNumber true c else .error ⟨.expectedValue, c.ahead⟩

/-- Read the rest of an array, the items read so far given last first. -/
def readItems : (steps depth : Nat) → List Json → Cursor → Except SyntaxError (Json × Cursor)
  | 0, _, _, c => .error ⟨.endInList, c.place⟩
  | steps + 1, depth, items, c =>
    let c := skipBlank c
    match c.rest with
    | [] => .error ⟨.endInList, c.place⟩
    | ']' :: _ => .ok (.array items.reverse, c.skip)
    | x :: _ => do
      let c ←
        if items.isEmpty then pure c
        else if x = ',' then
          let c := skipBlank c.skip
          match c.rest with
          | [] => .error ⟨.endInValue, c.place⟩
          | ']' :: _ => .error ⟨.trailingComma, c.ahead⟩
          | _ => pure c
        else .error ⟨.expectedCommaOrListEnd, c.ahead⟩
      let (item, c) ← readValue steps depth c
      readItems steps depth (item :: items) c

/-- Read the rest of an object, the fields read so far given last first. -/
def readFields : (steps depth : Nat) → List (String × Json) → Cursor →
    Except SyntaxError (Json × Cursor)
  | 0, _, _, c => .error ⟨.endInObject, c.place⟩
  | steps + 1, depth, fields, c =>
    let c := skipBlank c
    match c.rest with
    | [] => .error ⟨.endInObject, c.place⟩
    | '\x7d' :: _ => .ok (.ofMap (.ofList fields.reverse), c.skip)
    | x :: _ => do
      let c ←
        if fields.isEmpty then
          if x = '"' then pure c else .error ⟨.keyNotAString, c.ahead⟩
        else if x = ',' then
          let c := skipBlank c.skip
          match c.rest with
          | [] => .error ⟨.endInValue, c.place⟩
          | '"' :: _ => pure c
          | '\x7d' :: _ => .error ⟨.trailingComma, c.ahead⟩
          | _ => .error ⟨.keyNotAString, c.ahead⟩
        else .error ⟨.expectedCommaOrObjectEnd, c.ahead⟩
      let (key, c) ← readKey steps c
      let (value, c) ← readValue steps depth c
      readFields steps depth ((key, value) :: fields) c

end

/-- The number of arrays and objects that may be open at one time. -/
def depthLimit : Nat := 127

/-- Read a whole text as one value, with at most `depth` arrays and objects open at one time. -/
def parseWithin (depth : Nat) (text : String) : Except SyntaxError Json := do
  let (value, c) ← readValue (2 * text.length + 2) depth (.start text)
  let c := skipBlank c
  if c.rest.isEmpty then return value else .error ⟨.trailingCharacters, c.ahead⟩

/-- Read a whole text as one value. -/
def parse (text : String) : Except SyntaxError Json := parseWithin depthLimit text

end Json
end WalletSession
