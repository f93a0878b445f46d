set_option autoImplicit false

/-! # Punycode

Labels of domain names beyond ASCII are written in ASCII (RFC 3492): first the ASCII characters as they are, then,
behind a hyphen, where to insert which other character. The insertions come in increasing order of code
point, each as the distance from the one before it, in a numeral of base 36 whose digits end the sooner the
smaller they are. `Punycode.decode?` reads such a label. -/

namespace WalletSession
namespace Punycode

/-- The value of a digit: letters of either case, then the decimal digits. -/
def digitValue? (c : Char) : Option Nat :=
  if 'a' ≤ c ∧ c ≤ 'z' then some (c.toNat - 'a'.toNat)
  else if 'A' ≤ c ∧ c ≤ 'Z' then some (c.toNat - 'A'.toNat)
  else if '0' ≤ c ∧ c ≤ '9' then some (c.toNat - '0'.toNat + 26)
  else none

/-- The digit at which a numeral may end, for the digit at `position`, counted in steps of 36. -/
def threshold (position bias : Nat) : Nat :=
  if position ≤ bias then 1 else if bias + 26 ≤ position then 26 else position - bias

/-- Divide a distance down to 455 and add up 36 for every step. -/
def scaleDown (distance steps : Nat) : Nat × Nat :=
  if 455 < distance then scaleDown (distance / 35) (steps + 36) else (distance, steps)
termination_by distance
decreasing_by omega

/-- The bias after a distance, with `count` characters in place after it. -/
def adapt (distance count : Nat) (first : Bool) : Nat :=
  let damped := if first then distance / 700 else distance / 2
  let scaled := scaleDown (damped + damped / count) 0
  scaled.2 + 36 * scaled.1 / (scaled.1 + 38)

/-- The value of the numeral in front, added to `total`, and the text behind it. -/
def readDistance? (bias : Nat) : (total weight position : Nat) → List Char → Option (Nat × List Char)
  | _, _, _, [] => none
  | total, weight, position, c :: rest =>
    match digitValue? c with
    | none => none
    | some d =>
      let t := threshold position bias
      if d < t then some (total + d * weight, rest)
      else readDistance? bias (total + d * weight) (weight * (36 - t)) (position + 36) rest

/-- The character with this code point. -/
def char? (point : Nat) : Option Char :=
  if h : point.isValidChar then some ⟨UInt32.ofNatLT point (by
    rcases h with h | h <;> simp only [UInt32.size] <;> omega), by simpa [UInt32.isValidChar] using h⟩
  else none

/-- Where the next insertion is counted from. -/
structure Progress where
  point : Nat
  index : Nat
  bias : Nat
  first : Bool

/-- Carry out the insertions of a text, at most `steps` of them. -/
def insertAll? : (steps : Nat) → Progress → (placed text : List Char) → Option (List Char)
  | _, _, placed, [] => some placed
  | 0, _, _, _ => none
  | steps + 1, p, placed, text => do
    let (total, rest) ← readDistance? p.bias p.index 1 36 text
    let count := placed.length + 1
    let point := p.point + total / count
    let index := total % count
    let c ← char? point
    insertAll? steps ⟨point, index + 1, adapt (total - p.index) count p.first, false⟩
      (placed.take index ++ c :: placed.drop index) rest

/-- The label that a text stands for. -/
def decode? (cs : List Char) : Option (List Char) :=
  let insertions := (cs.reverse.takeWhile (· != '-')).reverse
  let basic := cs.take (cs.length - insertions.length - 1)
  if basic.all (·.toNat < 0x80) then insertAll? insertions.length ⟨0x80, 0, 72, true⟩ basic insertions
  else none

end Punycode
end WalletSession
