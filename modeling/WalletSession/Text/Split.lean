set_option autoImplicit false

/-! # Splitting at a mark

`Text.splitFirst` cuts a text at the first occurrence of a mark and drops the mark; what it returns is pinned
down by `Text.splitFirst_eq_some_iff`. -/

namespace WalletSession
namespace Text

/-- The characters before and after the first `mark`. -/
def splitFirst (mark : Char) : List Char → Option (List Char × List Char)
  | [] => none
  | c :: rest =>
    if c = mark then some ([], rest)
    else (splitFirst mark rest).map fun parts => (c :: parts.1, parts.2)

/-- All parts between the marks, at least one. -/
def splitAll (mark : Char) : List Char → List (List Char)
  | [] => [[]]
  | c :: rest =>
    if c = mark then [] :: splitAll mark rest
    else
      match splitAll mark rest with
      | [] => [[c]]
      | part :: parts => (c :: part) :: parts

theorem splitFirst_eq_some_iff {mark : Char} {cs before after : List Char} :
    splitFirst mark cs = some (before, after) ↔ cs = before ++ mark :: after ∧ mark ∉ before := by
  induction cs generalizing before with
  | nil => simp [splitFirst]
  | cons c rest ih =>
    unfold splitFirst
    split
    · next h =>
      subst h
      cases before with
      | nil => simp [eq_comm]
      | cons b bs => simp only [Option.some.injEq, Prod.mk.injEq]; grind
    · next h =>
      cases before with
      | nil => simp [h]
      | cons b bs =>
        simp only [Option.map_eq_some_iff, Prod.mk.injEq, Prod.exists]
        constructor
        · rintro ⟨x, y, hxy, ⟨rfl, rfl⟩, rfl⟩
          have := ih.1 hxy
          grind
        · rintro ⟨heq, hmem⟩
          refine ⟨bs, after, ih.2 ?_, ?_, rfl⟩ <;> grind

end Text
end WalletSession
