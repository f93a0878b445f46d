import Mathlib.Algebra.BigOperators.Finprod
import WalletSession.KeyMap

set_option autoImplicit false

/-! # Totals over a map

`KeyMap.total f m` adds up `f` over the values of `m`. Putting a value under a key changes the total by what
that key had before (`KeyMap.total_insert`), and the total is the sum over all keys there are, a key without a
value counting nothing (`KeyMap.total_eq_finsum`). -/

namespace WalletSession

variable {α : Type}

/-! ## Keys -/

namespace KeyMap

theorem pairwise_keys (m : KeyMap α) : m.keys.Pairwise (· < ·) :=
  List.pairwise_map.2 m.ascending

theorem nodup_keys (m : KeyMap α) : m.keys.Nodup :=
  m.pairwise_keys.imp String.ne_of_lt

theorem get?_eq_none_of_not_mem_keys {m : KeyMap α} {key : String} (h : key ∉ m.keys) : m.get? key = none := by
  rw [mem_keys, contains, Option.isSome_iff_ne_none, not_not] at h
  exact h

end KeyMap

/-! ## Totals -/

theorem Entries.sum_insert (f : α → Nat) (key : String) (value : α) {entries : List (String × α)}
    (h : Ascending entries) :
    ((insert key value entries).map fun e => f e.2).sum + ((find? key entries).map f).getD 0 =
      (entries.map fun e => f e.2).sum + f value := by
  induction entries with
  | nil => simp [insert, find?]
  | cons head rest ih =>
    obtain ⟨k, v⟩ := head
    rw [ascending_cons] at h
    by_cases hlt : key < k
    · have hnone : find? key ((k, v) :: rest) = none := by
        refine find?_eq_none_of_lt fun e he => ?_
        rcases List.mem_cons.1 he with rfl | he
        · exact hlt
        · exact String.lt_trans hlt (h.1 e he)
      simp only [insert, hlt, if_true, hnone, List.map_cons, List.sum_cons, Option.map_none, Option.getD_none]
      omega
    · by_cases heq : k = key
      · subst heq
        simp only [insert, hlt, find?, if_true, if_false, List.map_cons, List.sum_cons, Option.map_some,
          Option.getD_some]
        omega
      · have ih := ih h.2
        simp only [insert, hlt, heq, find?, if_false, List.map_cons, List.sum_cons]
        omega

/-- Where only one key counts, the sum is what is under that key. -/
theorem Entries.sum_of_key {f : String × α → Nat} {entries : List (String × α)} {key : String}
    (h : Ascending entries) (hf : ∀ e ∈ entries, e.1 ≠ key → f e = 0) :
    (entries.map f).sum = ((find? key entries).map fun v => f (key, v)).getD 0 := by
  induction entries with
  | nil => rfl
  | cons head rest ih =>
    obtain ⟨k, v⟩ := head
    rw [ascending_cons] at h
    rw [List.map_cons, List.sum_cons]
    by_cases hk : k = key
    · subst hk
      have hrest : (rest.map f).sum = 0 := by
        refine List.sum_eq_zero fun n hn => ?_
        obtain ⟨e, he, rfl⟩ := List.mem_map.1 hn
        exact hf e (by simp [he]) (String.ne_of_lt (h.1 e he)).symm
      simp [find?, hrest]
    · have hhead : f (k, v) = 0 := hf (k, v) (by simp) hk
      rw [ih h.2 fun e he => hf e (by simp [he])]
      simp [find?, hk, hhead]

namespace KeyMap

/-- Where only one key yields `x`, it is met as often as that key yields it. -/
theorem count_flatMap_of_key {β : Type} [BEq β] [LawfulBEq β] (m : KeyMap α) (key : String) {x : β}
    {f : String × α → List β} (hf : ∀ e ∈ m.toList, e.1 ≠ key → x ∉ f e) :
    (m.toList.flatMap f).count x = ((m.get? key).map fun v => (f (key, v)).count x).getD 0 := by
  rw [List.count_flatMap]
  exact Entries.sum_of_key m.ascending fun e he hne => List.count_eq_zero_of_not_mem (hf e he hne)

/-- What `f` adds up to over the values. -/
def total (f : α → Nat) (m : KeyMap α) : Nat := (m.toList.map fun e => f e.2).sum

variable (f : α → Nat)

theorem total_insert (m : KeyMap α) (key : String) (value : α) :
    (m.insert key value).total f + ((m.get? key).map f).getD 0 = m.total f + f value :=
  Entries.sum_insert f key value m.ascending

theorem total_erase {m : KeyMap α} {key : String} {value : α} (h : m.get? key = some value) :
    (m.erase key).total f + f value = m.total f := by
  -- Putting the value back is an insertion where nothing was.
  have hback : (m.erase key).insert key value = m := by
    refine ext_get? fun other => ?_
    rw [get?_insert, get?_erase]
    by_cases hk : key = other
    · simp [← hk, h]
    · simp [hk]
  have hinsert := total_insert f (m.erase key) key value
  rw [hback, get?_erase] at hinsert
  simpa using hinsert.symm

/-- A key without a value counts nothing. -/
theorem support_subset_keys (m : KeyMap α) :
    (Function.support fun key => ((m.get? key).map f).getD 0) ⊆ m.keys.toFinset := by
  intro key hkey
  by_contra hnot
  rw [Finset.mem_coe, List.mem_toFinset] at hnot
  simp [get?_eq_none_of_not_mem_keys hnot] at hkey

theorem finite_support (m : KeyMap α) : (Function.support fun key => ((m.get? key).map f).getD 0).Finite :=
  m.keys.toFinset.finite_toSet.subset (support_subset_keys f m)

/-- The total is the sum over all keys. -/
theorem total_eq_finsum (m : KeyMap α) : m.total f = ∑ᶠ key, ((m.get? key).map f).getD 0 := by
  rw [finsum_eq_sum_of_support_subset _ (support_subset_keys f m), List.sum_toFinset _ m.nodup_keys, keys,
    List.map_map, total]
  congr 1
  refine List.map_congr_left fun e he => ?_
  have hget : m.get? e.1 = some e.2 := mem_toList.1 he
  simp [hget]

end KeyMap
end WalletSession
