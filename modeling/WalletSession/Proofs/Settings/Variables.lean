import Mathlib.Data.List.Basic
import WalletSession.Proofs.KeyMap
import WalletSession.Proofs.Text
import WalletSession.Settings.Layer

set_option autoImplicit false

/-! # What the variables give

The name of a variable is the prefix and a key (`Layer.HasKey`): letters count in any case, and blanks around the
prefix and around the key do not count. A key goes on behind a point, and then the variable gives a table for the first
part of it. Of all variables that give a key, the last one counts (`Layer.get?_ofEnvironment_eq_some_iff`); the one that
names the file gives no key at all. -/

namespace WalletSession
namespace Layer

open Surroundings (folded)
open Text (isBlank strip trim)

/-! ## Names -/

/-- The name of a variable is the prefix and a key of some parts. -/
structure HasKey (name : String) (parts : List String) : Prop where
  not_fileVariable : folded (trim name) ≠ folded fileVariable
  parts_ne_nil : parts ≠ []
  part_ne_empty : ∀ part ∈ parts, part ≠ ""
  dot_not_mem : ∀ part ∈ parts, '.' ∉ part.toList
  /-- The blanks around the key are not part of it. -/
  strip_eq : strip isBlank (".".intercalate parts).toList = (".".intercalate parts).toList
  spelled : ∃ before after, (∀ c ∈ before, isBlank c = true) ∧ (∀ c ∈ after, isBlank c = true) ∧
    (folded (trim name)).toList =
      (folded variablePrefix).toList ++ (before ++ (".".intercalate parts).toList ++ after)

/-- The parts of a key are read off between the blanks around it. -/
theorem splitAll_strip_eq_iff {cs : List Char} {parts : List String} :
    (Text.splitAll '.' (strip isBlank cs)).map String.ofList = parts ↔
      parts ≠ [] ∧ (∀ part ∈ parts, '.' ∉ part.toList) ∧ strip isBlank cs = (".".intercalate parts).toList := by
  have hlists : (Text.splitAll '.' (strip isBlank cs)).map String.ofList = parts ↔
      Text.splitAll '.' (strip isBlank cs) = parts.map String.toList := by
    constructor
    · rintro rfl
      simp
    · intro h
      simp [h]
  rw [hlists, Text.splitAll_eq_iff, String.toList_intercalate]
  simp

theorem variableKey?_eq_some_iff {name : String} {parts : List String} :
    variableKey? name = some parts ↔ HasKey name parts := by
  have hstarts : (folded variablePrefix).toList.isPrefixOf (folded (trim name)).toList = true ↔
      (folded variablePrefix).toList <+: (folded (trim name)).toList := List.isPrefixOf_iff_prefix
  -- A key is given up if it is that of the file or has an empty part.
  have hgiven (found : List String) :
      (decide (folded (trim name) = folded fileVariable) || found.any (·.isEmpty)) = true ↔
        ¬ (folded (trim name) ≠ folded fileVariable ∧ ∀ part ∈ found, part ≠ "") := by
    simp [or_iff_not_imp_left]
  unfold variableKey?
  simp only [hstarts, hgiven, ite_not]
  constructor
  · intro h
    split at h
    · next hstart =>
      obtain ⟨rest, hrest⟩ := hstart
      rw [← hrest, ← String.length_toList, List.drop_left] at h
      split at h
      · next hkept =>
        obtain ⟨hne, hdot, hkey⟩ := splitAll_strip_eq_iff.1 (Option.some.inj h)
        obtain ⟨hstrip, before, after, hbefore, hafter, hspelled⟩ := Text.strip_eq_iff.1 hkey
        refine ⟨hkept.1, hne, Option.some.inj h ▸ hkept.2, hdot, hstrip, before, after, hbefore, hafter, ?_⟩
        rw [← hrest, hspelled]
      · cases h
    · cases h
  · rintro ⟨hfile, hne, hempty, hdot, hstrip, before, after, hbefore, hafter, hspelled⟩
    have hkey : strip isBlank (before ++ (".".intercalate parts).toList ++ after) = (".".intercalate parts).toList := by
      rw [Text.strip_append _ hbefore hafter, hstrip]
    have hparts := splitAll_strip_eq_iff.2 ⟨hne, hdot, hkey⟩
    rw [if_pos ⟨_, hspelled.symm⟩, hspelled, ← String.length_toList, List.drop_left, hparts, if_pos ⟨hfile, hempty⟩]

/-! ## Values -/

/-- A variable gives a key its own value, or a table if its name goes on behind the key. -/
inductive Gives (key : String) : String × String → SettingValue → Prop where
  | plain {name text : String} (h : HasKey name [key]) : Gives key (name, text) (VariableValue.parse text)
  | part {name text next : String} {more : List String} (h : HasKey name (key :: next :: more)) :
    Gives key (name, text) .table

theorem variableEntry?_eq_some_iff {given : String × String} {key : String} {v : SettingValue} :
    variableEntry? given = some (key, v) ↔ Gives key given v := by
  obtain ⟨name, text⟩ := given
  constructor
  · intro h
    unfold variableEntry? at h
    split at h
    · next key' hkey =>
      cases h
      exact .plain (variableKey?_eq_some_iff.1 hkey)
    · next key' parts hone hkey =>
      cases h
      cases parts with
      | nil => exact absurd rfl hone
      | cons next more => exact .part (variableKey?_eq_some_iff.1 hkey)
    · cases h
  · intro h
    cases h with
    | plain h => simp [ variableEntry?, variableKey?_eq_some_iff.2 h]
    | part h => simp [ variableEntry?, variableKey?_eq_some_iff.2 h]

/-- The last of the variables that give a key. -/
def LastGives (environment : List (String × String)) (key : String) (v : SettingValue) : Prop :=
  ∃ before given after, environment = before ++ given :: after ∧ Gives key given v ∧
    ∀ later ∈ after, ∀ w, ¬ Gives key later w

theorem get?_ofEnvironment_concat_of_gives {key : String} {given : String × String} {v : SettingValue}
    (environment : List (String × String)) (h : Gives key given v) :
    (ofEnvironment (environment ++ [given])).values.get? key = some v := by
  have hentry := variableEntry?_eq_some_iff.2 h
  show (KeyMap.ofList ((environment ++ [given]).filterMap variableEntry?)).get? key = _
  rw [List.filterMap_append, List.filterMap_cons_some hentry, List.filterMap_nil, KeyMap.get?_ofList_concat, if_pos rfl]

theorem get?_ofEnvironment_concat_of_not {key : String} {given : String × String}
    (environment : List (String × String)) (h : ∀ v, ¬ Gives key given v) :
    (ofEnvironment (environment ++ [given])).values.get? key = (ofEnvironment environment).values.get? key := by
  show (KeyMap.ofList ((environment ++ [given]).filterMap variableEntry?)).get? key = _
  rw [List.filterMap_append]
  cases hentry : variableEntry? given with
  | none => rw [List.filterMap_cons_none hentry, List.filterMap_nil, List.append_nil]; rfl
  | some e =>
    have hne : e.1 ≠ key := by
      rintro rfl
      exact h e.2 (variableEntry?_eq_some_iff.1 hentry)
    rw [List.filterMap_cons_some hentry, List.filterMap_nil, KeyMap.get?_ofList_concat, if_neg hne]
    rfl

theorem get?_ofEnvironment_eq_none_iff {environment : List (String × String)} {key : String} :
    (ofEnvironment environment).values.get? key = none ↔ ∀ given ∈ environment, ∀ v, ¬ Gives key given v := by
  induction environment using List.reverseRecOn with
  | nil => exact ⟨fun _ given hgiven => absurd hgiven List.not_mem_nil, fun _ => rfl⟩
  | append_singleton environment given ih =>
    simp only [List.forall_mem_append, List.forall_mem_singleton]
    by_cases hgiven : ∀ v, ¬ Gives key given v
    · rw [get?_ofEnvironment_concat_of_not environment hgiven, ih]
      exact (and_iff_left hgiven).symm
    · obtain ⟨v, hv⟩ := not_forall_not.1 hgiven
      rw [get?_ofEnvironment_concat_of_gives environment hv]
      exact ⟨fun h => (Option.some_ne_none v h).elim, fun h => (hgiven h.2).elim⟩

/-- The last variable that gives a key counts. -/
theorem get?_ofEnvironment_eq_some_iff {environment : List (String × String)} {key : String} {v : SettingValue} :
    (ofEnvironment environment).values.get? key = some v ↔ LastGives environment key v := by
  constructor
  · intro h
    induction environment using List.reverseRecOn with
    | nil => cases h
    | append_singleton environment given ih =>
      by_cases hgiven : ∀ w, ¬ Gives key given w
      · rw [get?_ofEnvironment_concat_of_not environment hgiven] at h
        obtain ⟨before, last, after, henvironment, hlast, hafter⟩ := ih h
        refine ⟨before, last, after ++ [given], by simp [henvironment], hlast, fun later hlater => ?_⟩
        rcases List.mem_append.1 hlater with hlater | hlater
        · exact hafter later hlater
        · exact List.mem_singleton.1 hlater ▸ hgiven
      · obtain ⟨w, hw⟩ := not_forall_not.1 hgiven
        rw [get?_ofEnvironment_concat_of_gives environment hw] at h
        cases h
        exact ⟨environment, given, [], rfl, hw, by simp⟩
  · rintro ⟨before, given, after, rfl, hgiven, hafter⟩
    induction after using List.reverseRecOn with
    | nil => exact get?_ofEnvironment_concat_of_gives before hgiven
    | append_singleton after last ih =>
      rw [List.forall_mem_append, List.forall_mem_singleton] at hafter
      rw [← List.cons_append, ← List.append_assoc, get?_ofEnvironment_concat_of_not _ hafter.2]
      exact ih hafter.1

/-- The variable that names the file gives nothing. -/
theorem ofEnvironment_without_fileVariable (environment : List (String × String)) :
    ofEnvironment (environment.filter fun given => folded (trim given.1) != folded fileVariable) =
      ofEnvironment environment := by
  have hentries : (environment.filter fun given => folded (trim given.1) != folded fileVariable).filterMap
      variableEntry? = environment.filterMap variableEntry? := by
    rw [List.filterMap_filter]
    refine List.filterMap_congr fun given _ => ?_
    split
    · rfl
    · next hfile =>
      rw [eq_comm, Option.eq_none_iff_forall_ne_some]
      rintro ⟨key, v⟩ hentry
      have hgives := variableEntry?_eq_some_iff.1 hentry
      simp only [bne_iff_ne, ne_eq, not_not] at hfile
      cases hgives with
      | plain h => exact h.not_fileVariable hfile
      | part h => exact h.not_fileVariable hfile
  show Layer.mk _ _ = Layer.mk _ _
  rw [hentries]

end Layer
end WalletSession
