import WalletSession.ChainId
import WalletSession.Text.Printable
import WalletSession.Web.DomainTable
import WalletSession.Web.NormalForm
import WalletSession.Web.Punycode

set_option autoImplicit false

/-! # Domain names

Which names, internationalized ones included, name a host (UTS #46). Every character is folded, the name is put in
normal form, labels in Punycode are decoded, and then every label must begin with a character that is not a mark,
use joiners only where they have an effect, and keep to one writing direction. Empty labels and hyphens are fine,
and there is no limit on lengths. -/

namespace WalletSession
namespace Web

/-! ## Characters -/

/-- The ASCII character that `c` is folded to. -/
def asciiForm? (c : Char) : Option Char :=
  (asciiRuns.find? fun run => run.1 ≤ c.toNat ∧ c.toNat ≤ run.2.1).map fun run =>
    Char.ofNat (run.2.2 + (c.toNat - run.1))

/-- Whether a character beyond ASCII may stand in a domain name. -/
def isAdmitted (c : Char) : Bool :=
  admittedFormats.contains c.toNat ||
    !(Text.unprintable.contains c.toNat || refusedSymbols.contains c.toNat)

/-- What a character becomes in a domain name; nothing if it may not stand there. -/
def folded? (c : Char) : Option (List Char) :=
  if c.toNat < 0x80 then some [c.toLower]
  else if ignoredPoints.contains c.toNat then some []
  else
    match asciiForm? c with
    | some a => some [a]
    | none => if isAdmitted c then some [c] else none

/-- Whether a character ends the host or may not stand in one. -/
def isForbidden (c : Char) : Bool :=
  c.toNat ≤ 0x20 || c.toNat == 0x7f || "%#/:<>?@[\\]^|".toList.contains c

/-- Whether a character is a combining mark. -/
def isMark (c : Char) : Bool :=
  spacingMarks.contains c.toNat || (Text.isGraphemeExtender c && c != '\u200c')

/-! ## Joiners -/

/-- Whether a joiner is allowed at this place; `before` is what stands before it, last character first. A
joiner may follow a virama, and one that keeps letters apart may stand between letters that would join. -/
def isJoinerAllowed (joiner : Char) (before after : List Char) : Bool :=
  let letterBefore := (before.dropWhile isMark).head?
  let letterAfter := (after.dropWhile isMark).head?
  before.head?.any (viramas.contains ·.toNat) ||
    (joiner == '\u200c' && letterBefore.any (joinsNext.contains ·.toNat) &&
      letterAfter.any (joinsPrevious.contains ·.toNat))

/-- Whether all joiners of a label are allowed. -/
def joinersAllowed (before : List Char) : List Char → Bool
  | [] => true
  | c :: after =>
    (!(c == '\u200c' || c == '\u200d') || isJoinerAllowed c before after) &&
      joinersAllowed (c :: before) after

/-! ## Writing direction -/

/-- The part a character has in the direction of a text. -/
inductive Direction where
  | leftToRight
  | rightToLeft
  | arabicNumber
  | digit
  | neutral
  | mark
deriving DecidableEq

/-- The part of a character. -/
def direction (c : Char) : Direction :=
  if isAsciiDigit c then .digit
  else if isAsciiLetter c then .leftToRight
  else if c.toNat < 0x80 then .neutral
  else if rightToLeftPoints.contains c.toNat then .rightToLeft
  else if arabicNumberPoints.contains c.toNat then .arabicNumber
  else if digitPoints.contains c.toNat then .digit
  else if Text.isGraphemeExtender c then .mark
  else if neutralPoints.contains c.toNat then .neutral
  else .leftToRight

/-- The directions that may stand in a label written from right to left. -/
def rightToLeftLabel : List Direction := [.rightToLeft, .arabicNumber, .digit, .neutral, .mark]

/-- The directions that may stand in a label written from left to right. -/
def leftToRightLabel : List Direction := [.leftToRight, .digit, .neutral, .mark]

/-- Whether a label keeps to the direction of its first character. -/
def keepsDirection (label : List Char) : Bool :=
  let parts := label.map direction
  let last := (parts.reverse.dropWhile (· == .mark)).head?
  match parts.head? with
  | none => true
  | some .rightToLeft =>
    parts.all rightToLeftLabel.contains && !(parts.contains .digit && parts.contains .arabicNumber) &&
      last.any [.rightToLeft, .digit, .arabicNumber].contains
  | some .leftToRight =>
    parts.all leftToRightLabel.contains && last.any [.leftToRight, .digit].contains
  | some _ => false

/-! ## Names -/

/-- Whether a character is left as it is in a domain name. -/
def isKept (c : Char) : Bool := folded? c == some [c] && !foldedPoints.contains c.toNat

/-- A label as it is shown: what stands behind `xn--` is decoded, must need it, and must have been folded and be in
normal form. -/
def shownLabel? (label : List Char) : Option (List Char) :=
  match label with
  | 'x' :: 'n' :: '-' :: '-' :: rest =>
    (Punycode.decode? rest).filter fun shown =>
      shown.any (0x80 ≤ ·.toNat) && shown.all isKept && normalForm shown == shown
  | _ => some label

/-- Whether the characters of a label may stand together. -/
def isLabel (label : List Char) : Bool := !label.head?.any isMark && joinersAllowed [] label

/-- The labels of a domain name as they are shown, if it is one. -/
def labels? (cs : List Char) : Option (List (List Char)) := do
  let folded ← cs.mapM folded?
  let labels ← (Text.splitAll '.' (normalForm folded.flatten)).mapM shownLabel?
  let directed := labels.any (·.any fun c => [.rightToLeft, .arabicNumber].contains (direction c))
  if labels.all (fun label => isLabel label && !label.any isForbidden && (!directed || keepsDirection label))
  then some labels else none

end Web
end WalletSession
