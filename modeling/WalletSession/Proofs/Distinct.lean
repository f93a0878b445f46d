import Mathlib.Data.List.Induction
import Mathlib.Data.List.Nodup

set_option autoImplicit false

/-! # Lists without repetition

`List.eraseDups` keeps the first occurrence of every item. It commutes with filters (`eraseDups_filter`), it may be
used on the parts of a list first (`eraseDups_append_eraseDups`, `eraseDups_eraseDups_append`), and it does not see a
list without repetition that holds the same items, wherever this list is put in (`eraseDups_splice`). -/

namespace WalletSession

variable {α : Type} [DecidableEq α]

/-- One more item at the end. -/
theorem eraseDups_concat (l : List α) (a : α) :
    (l ++ [a]).eraseDups = if a ∈ l then l.eraseDups else l.eraseDups ++ [a] := by
  rw [List.eraseDups_append, List.removeAll]
  by_cases ha : a ∈ l <;> simp [ha, List.eraseDups_cons]

theorem nodup_eraseDups (l : List α) : l.eraseDups.Nodup := by
  induction l using List.reverseRecOn with
  | nil => simp
  | append_singleton l a ih =>
    rw [eraseDups_concat]
    split
    · exact ih
    · next ha => exact ih.append (List.nodup_singleton a) (by simpa using ha)

theorem eraseDups_eq_self {l : List α} (h : l.Nodup) : l.eraseDups = l := by
  induction l using List.reverseRecOn with
  | nil => rfl
  | append_singleton l a ih =>
    obtain ⟨hl, -, hdisjoint⟩ := List.nodup_append.1 h
    have ha : a ∉ l := fun hmem => hdisjoint a hmem a (by simp) rfl
    rw [eraseDups_concat, if_neg ha, ih hl]

theorem eraseDups_filter (p : α → Bool) (l : List α) : (l.filter p).eraseDups = l.eraseDups.filter p := by
  induction l using List.reverseRecOn with
  | nil => rfl
  | append_singleton l a ih =>
    rw [List.filter_append, eraseDups_concat]
    cases hp : p a with
    | true =>
      have hsingle : [a].filter p = [a] := by simp [hp]
      rw [hsingle, eraseDups_concat, ih]
      by_cases ha : a ∈ l <;> simp [ha, hp]
    | false =>
      have hsingle : [a].filter p = [] := by simp [hp]
      rw [hsingle, List.append_nil, ih]
      by_cases ha : a ∈ l <;> simp [ha, hp]

/-- Items that are there already add nothing. -/
theorem eraseDups_append_of_subset {l more : List α} (h : ∀ a ∈ more, a ∈ l) :
    (l ++ more).eraseDups = l.eraseDups := by
  have hnone : more.removeAll l = [] := by
    rw [List.removeAll, List.filter_eq_nil_iff]
    intro a ha
    simp [h a ha]
  rw [List.eraseDups_append, hnone, List.eraseDups_nil, List.append_nil]

/-- Repetitions may be dropped in the second part first. -/
theorem eraseDups_append_eraseDups (l more : List α) : (l ++ more.eraseDups).eraseDups = (l ++ more).eraseDups := by
  have hmore : (more.eraseDups.removeAll l).eraseDups = (more.removeAll l).eraseDups := by
    rw [List.removeAll, List.removeAll, eraseDups_filter, eraseDups_filter, eraseDups_eq_self (nodup_eraseDups more)]
  rw [List.eraseDups_append, List.eraseDups_append, hmore]

/-- Repetitions may be dropped in the first part first. -/
theorem eraseDups_eraseDups_append (l more : List α) : (l.eraseDups ++ more).eraseDups = (l ++ more).eraseDups := by
  have hmore : more.removeAll l.eraseDups = more.removeAll l := by
    simp [List.removeAll]
  rw [List.eraseDups_append, List.eraseDups_append, hmore, eraseDups_eq_self (nodup_eraseDups l)]

/-- The distinct items of a list change nothing where they are put into the list. -/
theorem eraseDups_splice (before after : List α) :
    (before ++ (before ++ after).eraseDups ++ after).eraseDups = (before ++ after).eraseDups := by
  have hfront : (before ++ before).eraseDups = before.eraseDups := eraseDups_append_of_subset fun _ ha => ha
  calc (before ++ (before ++ after).eraseDups ++ after).eraseDups
      = (before ++ (before ++ after).eraseDups).eraseDups := eraseDups_append_of_subset fun a ha => by simp [ha]
    _ = (before ++ before ++ after).eraseDups := by rw [eraseDups_append_eraseDups, List.append_assoc]
    _ = (before ++ after).eraseDups := by
      rw [← eraseDups_eraseDups_append (before ++ before), hfront, eraseDups_eraseDups_append]

/-- A list that is written down once or more has its own distinct items. -/
theorem eraseDups_flatMap_ite {β : Type} {p : β → Bool} {items : List α} {l : List β} (h : ∃ b ∈ l, p b = true) :
    (l.flatMap fun b => if p b = true then items else []).eraseDups = items.eraseDups := by
  induction l with
  | nil => simp at h
  | cons b rest ih =>
    rw [List.flatMap_cons]
    split
    · -- What is written down later has been written down here.
      refine eraseDups_append_of_subset fun a ha => ?_
      obtain ⟨b', -, ha⟩ := List.mem_flatMap.1 ha
      split at ha
      · exact ha
      · cases ha
    · next hb =>
      rw [List.exists_mem_cons_iff, or_iff_right hb] at h
      rw [List.nil_append, ih h]

/-- Nothing is left without an item exactly if there was nothing else. -/
theorem filter_ne_eq_nil_iff {l : List α} {x : α} (hl : l.Nodup) (hx : x ∈ l) :
    l.filter (· ≠ x) = [] ↔ l = [x] := by
  constructor
  · intro h
    have hall : ∀ y ∈ l, y = x := by simpa using h
    have hperm : l.Perm [x] := (List.perm_ext_iff_of_nodup hl (List.nodup_singleton x)).2 fun y =>
      ⟨fun hy => List.mem_singleton.2 (hall y hy), fun hy => List.mem_singleton.1 hy ▸ hx⟩
    exact List.perm_singleton.1 hperm
  · rintro rfl
    simp

end WalletSession
