import Mathlib.Data.List.TakeWhile
import WalletSession.Text.Blank
import WalletSession.Text.Split

set_option autoImplicit false

/-! # Cutting texts

What is left of a text when its ends are cut off (`Text.strip_eq_iff`), and the parts between its marks, which are
those of `List.splitOn`. -/

namespace WalletSession
namespace Text

/-! ## Cutting off the ends -/

section Strip

variable {p : Char → Bool}

/-- What is cut off the ends does not matter for what is left. -/
theorem strip_append (kept : List Char) {before after : List Char} (hbefore : ∀ c ∈ before, p c = true)
    (hafter : ∀ c ∈ after, p c = true) : strip p (before ++ kept ++ after) = strip p kept := by
  have hafter' : ∀ c ∈ after.reverse, p c = true := fun c hc => hafter c (List.mem_reverse.1 hc)
  unfold strip
  rw [List.append_assoc, List.dropWhile_append_of_pos hbefore, List.dropWhile_append]
  split
  · next hempty =>
    rw [List.isEmpty_iff.1 hempty, List.dropWhile_eq_nil_iff.2 hafter]
  · rw [List.reverse_append, List.dropWhile_append_of_pos hafter']

theorem exists_eq_append_strip (p : Char → Bool) (cs : List Char) : ∃ before after,
    (∀ c ∈ before, p c = true) ∧ (∀ c ∈ after, p c = true) ∧ cs = before ++ strip p cs ++ after := by
  refine ⟨cs.takeWhile p, ((cs.dropWhile p).reverse.takeWhile p).reverse, ?_, ?_, ?_⟩
  · exact fun c hc => List.mem_takeWhile_imp hc
  · exact fun c hc => List.mem_takeWhile_imp (List.mem_reverse.1 hc)
  · rw [strip, List.append_assoc, ← List.reverse_append, List.takeWhile_append_dropWhile, List.reverse_reverse,
      List.takeWhile_append_dropWhile]

/-- What is left has nothing at its ends to cut off. -/
theorem strip_strip (p : Char → Bool) (cs : List Char) : strip p (strip p cs) = strip p cs := by
  obtain ⟨before, after, hbefore, hafter, hcs⟩ := exists_eq_append_strip p cs
  conv => rhs; rw [hcs]
  exact (strip_append _ hbefore hafter).symm

theorem strip_eq_iff {cs kept : List Char} : strip p cs = kept ↔ strip p kept = kept ∧ ∃ before after,
    (∀ c ∈ before, p c = true) ∧ (∀ c ∈ after, p c = true) ∧ cs = before ++ kept ++ after := by
  constructor
  · rintro rfl
    exact ⟨strip_strip p cs, exists_eq_append_strip p cs⟩
  · rintro ⟨hkept, before, after, hbefore, hafter, rfl⟩
    rw [strip_append kept hbefore hafter, hkept]

theorem trim_trim (s : String) : trim (trim s) = trim s := by
  rw [trim, trim, String.toList_ofList, strip_strip]

end Strip

/-! ## Parts between marks -/

theorem splitAll_eq_splitOn (mark : Char) (cs : List Char) : splitAll mark cs = cs.splitOn mark := by
  induction cs with
  | nil => rfl
  | cons c rest ih =>
    obtain ⟨part, parts, hparts⟩ := List.exists_cons_of_ne_nil (List.splitOn_ne_nil mark rest)
    rw [splitAll, List.splitOn_cons_eq_if_modifyHead, ih, hparts]
    by_cases hc : c = mark <;> simp [hc]

theorem not_mem_of_mem_splitAll {mark : Char} {cs part : List Char} (h : part ∈ splitAll mark cs) : mark ∉ part := by
  induction cs generalizing part with
  | nil => simp_all [splitAll]
  | cons c rest ih =>
    rw [splitAll] at h
    split at h
    · rcases List.mem_cons.1 h with rfl | h
      · exact List.not_mem_nil
      · exact ih h
    · next hc =>
      cases hrest : splitAll mark rest with
      | nil =>
        simp only [hrest, List.mem_singleton] at h
        simpa [h] using Ne.symm hc
      | cons first more =>
        simp only [hrest, List.mem_cons] at h ih
        rcases h with rfl | h
        · simpa [Ne.symm hc] using ih (.inl rfl)
        · exact ih (.inr h)

/-- The parts between the marks are those that make the text when the marks are put between them again. -/
theorem splitAll_eq_iff {mark : Char} {cs : List Char} {parts : List (List Char)} :
    splitAll mark cs = parts ↔ parts ≠ [] ∧ (∀ part ∈ parts, mark ∉ part) ∧ cs = [mark].intercalate parts := by
  constructor
  · rintro rfl
    refine ⟨?_, fun part => not_mem_of_mem_splitAll, ?_⟩
    · rw [splitAll_eq_splitOn]
      exact List.splitOn_ne_nil mark cs
    · rw [splitAll_eq_splitOn, List.intercalate_splitOn]
  · rintro ⟨hne, hmark, rfl⟩
    rw [splitAll_eq_splitOn, List.splitOn_intercalate mark hmark hne]

end Text
end WalletSession
