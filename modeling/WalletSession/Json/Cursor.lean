set_option autoImplicit false

/-! # Places in a text

A cursor is the text still to be read together with the place reached so far: the line, counted from one, and
the number of UTF-8 bytes read on that line. -/

namespace WalletSession

/-- A place in a text: a line, counted from one, and the bytes before the place on that line. -/
structure Place where
  line : Nat
  column : Nat
deriving DecidableEq, Repr

/-- The place after one more character. -/
def Place.after (p : Place) (c : Char) : Place :=
  if c = '\n' then ⟨p.line + 1, 0⟩ else ⟨p.line, p.column + c.utf8Size⟩

/-- The place after one more byte, the first of a character. -/
def Place.afterByte (p : Place) (c : Char) : Place :=
  if c = '\n' then ⟨p.line + 1, 0⟩ else ⟨p.line, p.column + 1⟩

/-- The place after some bytes of a text. -/
def Place.afterBytes (p : Place) : Nat → List Char → Place
  | _, [] => p
  | count, c :: rest =>
    if c.utf8Size ≤ count then (p.after c).afterBytes (count - c.utf8Size) rest
    else ⟨p.line, p.column + count⟩

/-- The text still to be read and the place where it starts. -/
structure Cursor where
  rest : List Char
  place : Place

namespace Cursor

/-- The start of a text. -/
def start (text : String) : Cursor := ⟨text.toList, ⟨1, 0⟩⟩

/-- Pass over one character, if there is one. -/
def skip (c : Cursor) : Cursor :=
  match c.rest with
  | [] => c
  | x :: rest => ⟨rest, c.place.after x⟩

/-- The place just behind the first byte that is still to be read. -/
def ahead (c : Cursor) : Place :=
  match c.rest with
  | [] => c.place
  | x :: _ => c.place.afterByte x

/-- Pass over the characters at the front that satisfy `p`. -/
def skipWhile (p : Char → Bool) (c : Cursor) : Cursor :=
  let passed := c.rest.takeWhile p
  ⟨c.rest.dropWhile p, passed.foldl Place.after c.place⟩

end Cursor
end WalletSession
