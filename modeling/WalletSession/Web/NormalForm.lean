import WalletSession.Web.NormalFormTable

set_option autoImplicit false

/-! # Normal forms

A text is in normal form (Unicode normal form C) if it comes out unchanged when it is taken apart, the marks behind
every letter are put in the order of their classes, and what fits together is put together again. -/

namespace WalletSession
namespace Web

/-- The combining class of a character; letters have class zero, and so do some marks. -/
def combiningClass (c : Char) : Nat :=
  match combiningRuns.find? fun run => run.1 ≤ c.toNat ∧ c.toNat ≤ run.2.1 with
  | some run => run.2.2
  | none => 0

/-! ## Korean syllables

A syllable has a lead, a vowel and maybe a tail; all of them have a code point, in the order of their parts. -/

/-- The parts of a syllable. -/
def syllableParts? (c : Char) : Option (List Char) :=
  if 0xac00 ≤ c.toNat ∧ c.toNat ≤ 0xd7a3 then
    let index := c.toNat - 0xac00
    let leadAndVowel := [Char.ofNat (0x1100 + index / 588), Char.ofNat (0x1161 + index % 588 / 28)]
    some (if index % 28 = 0 then leadAndVowel else leadAndVowel ++ [Char.ofNat (0x11a7 + index % 28)])
  else none

/-- The syllable of a lead and a vowel, or of a syllable without tail and a tail. -/
def syllable? (first second : Char) : Option Char :=
  if 0x1100 ≤ first.toNat ∧ first.toNat ≤ 0x1112 ∧ 0x1161 ≤ second.toNat ∧ second.toNat ≤ 0x1175 then
    some (Char.ofNat (0xac00 + (first.toNat - 0x1100) * 588 + (second.toNat - 0x1161) * 28))
  else if 0xac00 ≤ first.toNat ∧ first.toNat ≤ 0xd7a3 ∧ (first.toNat - 0xac00) % 28 = 0 ∧
      0x11a8 ≤ second.toNat ∧ second.toNat ≤ 0x11c2 then
    some (Char.ofNat (first.toNat + (second.toNat - 0x11a7)))
  else none

/-! ## Taking apart and putting together -/

/-- The characters that a character is made up of. -/
def partsOf (c : Char) : List Char :=
  match syllableParts? c with
  | some parts => parts
  | none =>
    match compositions.find? (·.1 = c.toNat) with
    | some entry => entry.2.map Char.ofNat
    | none => [c]

/-- The character made up of `first` and `second`. -/
def composed? (first second : Char) : Option Char :=
  match syllable? first second with
  | some c => some c
  | none =>
    let parts := (partsOf first ++ [second]).map Char.toNat
    (compositions.find? (·.2 = parts)).map (Char.ofNat ·.1)

/-- Put a character behind a text, last character first: a mark goes before the marks of higher classes. -/
def place : List Char → Char → List Char
  | [], c => [c]
  | last :: before, c =>
    if 0 < combiningClass c ∧ combiningClass c < combiningClass last then last :: place before c
    else c :: last :: before

/-- Put together `letter` and the characters behind it. The marks in `passed`, last mark first, stay behind the letter
and stand in the way of those of the same class. -/
def putTogether (letter : Char) (passed : List Char) : List Char → List Char
  | [] => letter :: passed.reverse
  | c :: rest =>
    match if passed.head?.any (combiningClass c ≤ combiningClass ·) then none else composed? letter c with
    | some made => putTogether made passed rest
    | none =>
      if combiningClass c = 0 then letter :: passed.reverse ++ putTogether c [] rest
      else putTogether letter (c :: passed) rest

/-- The normal form of a text. -/
def normalForm (cs : List Char) : List Char :=
  match ((cs.flatMap partsOf).foldl place []).reverse with
  | [] => []
  | c :: rest => putTogether c [] rest

end Web
end WalletSession
