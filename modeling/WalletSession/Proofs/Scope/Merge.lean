import WalletSession.Proofs.Distinct
import WalletSession.Scope.Merge

set_option autoImplicit false

/-! # Unions without repetition

A union lists the items of the first list, then the new ones of the second, and none twice
(`isJoin_distinctUnion`). It may be taken of several lists from either end (`distinctUnion_assoc`), which scope objects
(`ScopeObject.merge_assoc`) and scope maps inherit from it. Scope objects of one name that arrive one after the other
are merged from the left. -/

namespace WalletSession

/-! ## Lists -/

/-- `all` lists the items of `first`, then the items of `second` that are new, and none twice. -/
structure IsJoin (first second all : List String) : Prop where
  eq_append : all = first.eraseDups ++ (second.filter (· ∉ first)).eraseDups
  nodup : all.Nodup

theorem isJoin_distinctUnion (a b : List String) : IsJoin a b (distinctUnion a b) := by
  refine ⟨?_, nodup_eraseDups _⟩
  rw [distinctUnion, List.eraseDups_append]
  congr 2
  simp [List.removeAll]

theorem forall_mem_distinctUnion {p : String → Prop} {a b : List String} :
    (∀ item ∈ distinctUnion a b, p item) ↔ (∀ item ∈ a, p item) ∧ ∀ item ∈ b, p item := by
  simp only [mem_distinctUnion, or_imp, forall_and]

theorem isSome_distinctUnion? (a b : Option (List String)) :
    (distinctUnion? a b).isSome = (a.isSome || b.isSome) := by
  cases a <;> cases b <;> rfl

theorem getD_distinctUnion? (a b : Option (List String)) :
    (distinctUnion? a b).getD [] = distinctUnion (a.getD []) (b.getD []) := by
  cases a <;> cases b <;> rfl

theorem distinctUnion_assoc (a b c : List String) :
    distinctUnion (distinctUnion a b) c = distinctUnion a (distinctUnion b c) := by
  unfold distinctUnion
  rw [eraseDups_eraseDups_append, eraseDups_append_eraseDups, List.append_assoc]

/-- Lists that may be missing are told apart by whether they are there and by what is in them. -/
theorem eq_of_isSome_of_getD {a b : Option (List String)} (hthere : a.isSome = b.isSome) (hitems : a.getD [] = b.getD []) :
    a = b := by
  cases a <;> cases b <;> simp_all

theorem distinctUnion?_assoc (a b c : Option (List String)) :
    distinctUnion? (distinctUnion? a b) c = distinctUnion? a (distinctUnion? b c) := by
  refine eq_of_isSome_of_getD ?_ ?_
  · simp only [isSome_distinctUnion?, Bool.or_assoc]
  · simp only [getD_distinctUnion?, distinctUnion_assoc]

/-! ## Scope objects -/

namespace ScopeObject

theorem merge_assoc (a b c : ScopeObject) : (a.merge b).merge c = a.merge (b.merge c) := by
  simp only [merge, distinctUnion_assoc, distinctUnion?_assoc]

instance : Std.Associative ScopeObject.merge := ⟨merge_assoc⟩

/-- What scope objects of one name grant together, taken in order. -/
def mergeAll : List ScopeObject → Option ScopeObject
  | [] => none
  | o :: rest => some (rest.foldl ScopeObject.merge o)

end ScopeObject

/-! ## Scope maps -/

namespace ScopeMap

variable {a b : ScopeMap} {name : String}

theorem contains_merge (a b : ScopeMap) (name : String) :
    (a.merge b).contains name = (a.contains name || b.contains name) := by
  simp only [KeyMap.contains, get?_merge]
  cases a.get? name <;> cases b.get? name <;> rfl

/-- What holds of a merged scope object exactly if it holds of both parts holds of a scope of merged maps exactly if it
holds of the scope in each map that has it. -/
theorem forall_get?_merge_iff {p : ScopeObject → Prop} (hp : ∀ v w, p (v.merge w) ↔ p v ∧ p w) :
    (∀ o, (a.merge b).get? name = some o → p o) ↔
      (∀ o, a.get? name = some o → p o) ∧ ∀ o, b.get? name = some o → p o := by
  rw [get?_merge]
  cases a.get? name <;> cases b.get? name <;> simp [hp]

/-- Likewise, with one of the parts and one of the maps. -/
theorem exists_get?_merge_iff {p : ScopeObject → Prop} (hp : ∀ v w, p (v.merge w) ↔ p v ∨ p w) :
    (∃ o, (a.merge b).get? name = some o ∧ p o) ↔
      (∃ o, a.get? name = some o ∧ p o) ∨ ∃ o, b.get? name = some o ∧ p o := by
  rw [get?_merge]
  cases a.get? name <;> cases b.get? name <;> simp [hp]

end ScopeMap

end WalletSession
