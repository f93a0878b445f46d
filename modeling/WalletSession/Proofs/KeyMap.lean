import Mathlib.Data.List.Induction
import WalletSession.KeyMap

set_option autoImplicit false

/-! # Walks through a map

What a walk through the entries of a map yields when only one or two keys matter, and look-ups in maps that
are built from lists. A walk meets its keys in increasing order, so of two keys that matter the smaller one
comes first (`KeyMap.filterMap_toList_of_two_keys`), and a search that stops at what it finds stops at the smallest
key (`KeyMap.findSome?_toList_eq_some_iff`). A new key is met somewhere between the others, which a walk meets as before
(`KeyMap.exists_toList_insert`). What holds of all entries (`KeyMap.All`) is kept when the map is changed. -/

namespace WalletSession
namespace Entries

variable {α β : Type}

/-! ## Walks in which few keys matter -/

theorem filterMap_of_key {f : String × α → Option β} {entries : List (String × α)} {key : String}
    (h : Ascending entries) (hf : ∀ e ∈ entries, e.1 ≠ key → f e = none) :
    entries.filterMap f = ((find? key entries).bind fun v => f (key, v)).toList := by
  induction entries with
  | nil => rfl
  | cons head rest ih =>
    obtain ⟨k, v⟩ := head
    rw [ascending_cons] at h
    by_cases hk : k = key
    · subst hk
      have hrest : rest.filterMap f = [] := by
        refine List.filterMap_eq_nil_iff.2 fun e he => hf e (by simp [he]) ?_
        exact (String.ne_of_lt (h.1 e he)).symm
      rw [List.filterMap_cons, hrest]
      cases hv : f (k, v) <;> simp [find?, hv]
    · have hhead : f (k, v) = none := hf (k, v) (by simp) hk
      rw [List.filterMap_cons_none hhead, ih h.2 fun e he => hf e (by simp [he])]
      simp [find?, hk]

/-- Of two keys that matter the smaller one comes first. -/
theorem filterMap_of_two_keys {f : String × α → Option β} {entries : List (String × α)}
    {first second : String} (h : Ascending entries) (hlt : first < second)
    (hf : ∀ e ∈ entries, e.1 ≠ first → e.1 ≠ second → f e = none) :
    entries.filterMap f = ((find? first entries).bind fun v => f (first, v)).toList ++
      ((find? second entries).bind fun v => f (second, v)).toList := by
  induction entries with
  | nil => rfl
  | cons head rest ih =>
    obtain ⟨k, v⟩ := head
    have hasc := ascending_cons.1 h
    by_cases hk : k = first
    · subst hk
      have honly : ∀ e ∈ rest, e.1 ≠ second → f e = none := fun e he hne =>
        hf e (by simp [he]) (String.ne_of_lt (hasc.1 e he)).symm hne
      have hrest := filterMap_of_key hasc.2 honly
      rw [List.filterMap_cons, hrest]
      cases hv : f (k, v) <;> simp [find?, hv, String.ne_of_lt hlt]
    · by_cases hk' : k = second
      · subst hk'
        -- The first key would have come before this one.
        have hfirst : ∀ e ∈ rest, e.1 ≠ first := fun e he =>
          (String.ne_of_lt (String.lt_trans hlt (hasc.1 e he))).symm
        have honly : ∀ e ∈ (k, v) :: rest, e.1 ≠ k → f e = none := by
          intro e he hne
          rcases List.mem_cons.1 he with rfl | he'
          · exact absurd rfl hne
          · exact hf e he (hfirst e he') hne
        have hnone : find? first rest = none :=
          find?_eq_none_of_lt fun e he => String.lt_trans hlt (hasc.1 e he)
        rw [filterMap_of_key h honly]
        simp [find?, hk, hnone]
      · have hhead : f (k, v) = none := hf (k, v) (by simp) hk hk'
        rw [List.filterMap_cons_none hhead, ih hasc.2 fun e he => hf e (by simp [he])]
        simp [find?, hk, hk']

/-- An entry with a new key is put in somewhere, and the others stay as they are. -/
theorem exists_insert_eq (key : String) (value : α) {entries : List (String × α)} (h : find? key entries = none) :
    ∃ before after, entries = before ++ after ∧ insert key value entries = before ++ (key, value) :: after := by
  induction entries with
  | nil => exact ⟨[], [], rfl, rfl⟩
  | cons head rest ih =>
    obtain ⟨k, v⟩ := head
    have hk : k ≠ key := by
      rintro rfl
      simp [find?] at h
    rw [insert, if_neg hk]
    split
    · exact ⟨[], (k, v) :: rest, rfl, rfl⟩
    · rw [find?, if_neg hk] at h
      obtain ⟨before, after, hrest, hinsert⟩ := ih h
      exact ⟨(k, v) :: before, after, by rw [hrest, List.cons_append], by rw [hinsert, List.cons_append]⟩

end Entries

namespace KeyMap

variable {α β : Type}

theorem filterMap_toList_of_key {f : String × α → Option β} {m : KeyMap α} {key : String}
    (hf : ∀ e ∈ m.toList, e.1 ≠ key → f e = none) :
    m.toList.filterMap f = ((m.get? key).bind fun v => f (key, v)).toList :=
  Entries.filterMap_of_key m.ascending hf

theorem filterMap_toList_of_two_keys {f : String × α → Option β} {m : KeyMap α} {first second : String}
    (hlt : first < second) (hf : ∀ e ∈ m.toList, e.1 ≠ first → e.1 ≠ second → f e = none) :
    m.toList.filterMap f = ((m.get? first).bind fun v => f (first, v)).toList ++
      ((m.get? second).bind fun v => f (second, v)).toList :=
  Entries.filterMap_of_two_keys m.ascending hlt hf

/-- Where only one key matters, a search comes to a look-up. -/
theorem findSome?_toList_of_key {f : String × α → Option β} {m : KeyMap α} {key : String}
    (hf : ∀ e ∈ m.toList, e.1 ≠ key → f e = none) :
    m.toList.findSome? f = (m.get? key).bind fun v => f (key, v) := by
  rw [← List.head?_filterMap, filterMap_toList_of_key hf, Option.head?_toList]

/-- A search finds the smallest key for which there is something to find. -/
theorem findSome?_toList_eq_some_iff {f : String × α → Option β} {m : KeyMap α} {found : β} :
    m.toList.findSome? f = some found ↔ ∃ key v, m.get? key = some v ∧ f (key, v) = some found ∧
      ∀ other w, m.get? other = some w → other < key → f (other, w) = none := by
  have hascending (before after : List (String × α)) (key : String) (v : α)
      (hsplit : m.toList = before ++ (key, v) :: after) :
      (∀ e ∈ before, e.1 < key) ∧ ∀ e ∈ after, key < e.1 := by
    have hpairs : (before ++ (key, v) :: after).Pairwise fun a b => a.1 < b.1 := hsplit ▸ m.ascending
    rw [List.pairwise_append, List.pairwise_cons] at hpairs
    exact ⟨fun e he => hpairs.2.2 e he (key, v) (by simp), hpairs.2.1.1⟩
  rw [List.findSome?_eq_some_iff]
  constructor
  · rintro ⟨before, ⟨key, v⟩, after, hsplit, hfound, hbefore⟩
    refine ⟨key, v, mem_toList.1 (by simp [hsplit]), hfound, fun other w hw hlt => ?_⟩
    rw [← mem_toList, hsplit, List.mem_append, List.mem_cons] at hw
    rcases hw with hw | hw | hw
    · exact hbefore (other, w) hw
    · cases hw
      exact absurd hlt (String.lt_irrefl _)
    · exact absurd (String.lt_trans hlt ((hascending before after key v hsplit).2 _ hw)) (String.lt_irrefl _)
  · rintro ⟨key, v, hv, hfound, hsmaller⟩
    obtain ⟨before, after, hsplit⟩ := List.append_of_mem (mem_toList.2 hv)
    refine ⟨before, (key, v), after, hsplit, hfound, fun e he => ?_⟩
    exact hsmaller e.1 e.2 (mem_toList.1 (by simp [hsplit, he])) ((hascending before after key v hsplit).1 e he)

theorem eq_empty_iff {m : KeyMap α} : m = .empty ↔ ∀ key value, m.get? key ≠ some value := by
  constructor
  · rintro rfl key value h
    cases h
  · intro h
    ext key value
    simp [h key value]

/-! ## Changed maps -/

theorem map_eq_self {f : String → α → α} {m : KeyMap α}
    (h : ∀ key value, m.get? key = some value → f key value = value) : m.map f = m := by
  refine ext_get? fun key => ?_
  rw [get?_map]
  cases hv : m.get? key with
  | none => rfl
  | some value => simp [h key value hv]

theorem map_map {γ : Type} (f : String → α → β) (g : String → β → γ) (m : KeyMap α) :
    (m.map f).map g = m.map fun key value => g key (f key value) := by
  refine ext_get? fun key => ?_
  rw [get?_map, get?_map, get?_map, Option.map_map]
  rfl

theorem filter_eq_self {p : String → α → Bool} {m : KeyMap α}
    (h : ∀ key value, m.get? key = some value → p key value = true) : m.filter p = m := by
  ext key value
  rw [get?_filter, Option.filter_eq_some_iff]
  exact and_iff_left_of_imp (h key value)

theorem filter_filter (p q : String → α → Bool) (m : KeyMap α) :
    (m.filter p).filter q = m.filter fun key value => p key value && q key value := by
  ext key value
  simp only [get?_filter, Option.filter_eq_some_iff, Bool.and_eq_true, and_assoc]

theorem toList_map (f : String → α → β) (m : KeyMap α) : (m.map f).toList = m.toList.map fun e => (e.1, f e.1 e.2) := by
  show m.toList.filterMap (fun e => some (e.1, f e.1 e.2)) = _
  rw [List.filterMap_eq_map']

theorem toList_filter (p : String → α → Bool) (m : KeyMap α) :
    (m.filter p).toList = m.toList.filter fun e => p e.1 e.2 := by
  show m.toList.filterMap (fun e => (if p e.1 e.2 then some e.2 else none).map (e.1, ·)) = _
  rw [← List.filterMap_eq_filter]
  congr 1
  funext e
  cases hp : p e.1 e.2 <;> simp [hp, Option.guard]

theorem keys_map (f : String → α → β) (m : KeyMap α) : (m.map f).keys = m.keys := by
  rw [keys, toList_map, List.map_map]
  rfl

theorem exists_toList_insert {m : KeyMap α} {key : String} (value : α) (h : m.get? key = none) :
    ∃ before after, m.toList = before ++ after ∧ (m.insert key value).toList = before ++ (key, value) :: after :=
  Entries.exists_insert_eq key value h

/-! ## What holds of all entries -/

/-- Every entry satisfies `p`. -/
def All (p : String → α → Prop) (m : KeyMap α) : Prop := ∀ key value, m.get? key = some value → p key value

namespace All

variable {p : String → α → Prop} {q : String → β → Prop} {a b m : KeyMap α}

theorem insert (hm : m.All p) {key : String} {value : α} (h : p key value) : (m.insert key value).All p := by
  intro other value' hvalue'
  rw [get?_insert] at hvalue'
  split at hvalue'
  · next heq =>
    cases hvalue'
    exact heq ▸ h
  · exact hm other value' hvalue'

theorem filter (hm : m.All p) (keep : String → α → Bool) : (m.filter keep).All p := by
  intro key value hvalue
  rw [get?_filter, Option.filter_eq_some_iff] at hvalue
  exact hm key value hvalue.1

theorem map (hm : m.All p) {f : String → α → β} (hf : ∀ key value, p key value → q key (f key value)) :
    (m.map f).All q := by
  intro key value hvalue
  rw [get?_map, Option.map_eq_some_iff] at hvalue
  obtain ⟨value', hvalue', rfl⟩ := hvalue
  exact hf key value' (hm key value' hvalue')

theorem unionWith (ha : a.All p) (hb : b.All p) {f : α → α → α}
    (hf : ∀ key v w, p key v → p key w → p key (f v w)) : (KeyMap.unionWith f a b).All p := by
  intro key value hvalue
  rw [get?_unionWith] at hvalue
  split at hvalue
  · next v w hv hw =>
    cases hvalue
    exact hf key v w (ha key v hv) (hb key w hw)
  · next hv _ =>
    cases hvalue
    exact ha key value hv
  · exact hb key value hvalue

end All

/-! ## Maps built from lists -/

theorem get?_ofList_concat (entries : List (String × α)) (e : String × α) (key : String) :
    (ofList (entries ++ [e])).get? key = if e.1 = key then some e.2 else (ofList entries).get? key := by
  unfold ofList
  rw [List.foldl_append, List.foldl_cons, List.foldl_nil, get?_insert]

theorem mem_of_get?_ofList {entries : List (String × α)} {key : String} {value : α}
    (h : (ofList entries).get? key = some value) : (key, value) ∈ entries := by
  induction entries using List.reverseRecOn with
  | nil => cases h
  | append_singleton entries e ih =>
    rw [get?_ofList_concat] at h
    split at h
    · next hkey =>
      cases h
      simp [← hkey]
    · exact List.mem_append_left _ (ih h)

/-- There is something to look up under every key of a list. -/
theorem exists_get?_ofList {entries : List (String × α)} {e : String × α} (h : e ∈ entries) :
    ∃ value, (ofList entries).get? e.1 = some value := by
  induction entries using List.reverseRecOn with
  | nil => cases h
  | append_singleton entries last ih =>
    rw [get?_ofList_concat]
    split
    · exact ⟨last.2, rfl⟩
    · next hkey =>
      rcases List.mem_append.1 h with hmem | hmem
      · exact ih hmem
      · cases List.mem_singleton.1 hmem
        exact absurd rfl hkey

/-- A list in which equal keys have equal values is looked up entry by entry. -/
theorem get?_ofList_eq_some_iff {entries : List (String × α)}
    (hfun : ∀ k v w, (k, v) ∈ entries → (k, w) ∈ entries → v = w) {key : String} {value : α} :
    (ofList entries).get? key = some value ↔ (key, value) ∈ entries := by
  constructor
  · exact mem_of_get?_ofList
  · intro hmem
    obtain ⟨w, hw⟩ := exists_get?_ofList hmem
    rw [hw, hfun key w value (mem_of_get?_ofList hw) hmem]

theorem eq_of_mem_toList {m : KeyMap α} {key : String} {v w : α} (hv : (key, v) ∈ m.toList)
    (hw : (key, w) ∈ m.toList) : v = w := by
  rw [mem_toList] at hv hw
  exact Option.some.inj (hv.symm.trans hw)

/-- The entries of a map make the map again. -/
theorem ofList_toList (m : KeyMap α) : ofList m.toList = m := by
  ext key value
  rw [get?_ofList_eq_some_iff fun _ _ _ hv hw => eq_of_mem_toList hv hw, mem_toList]

/-- One value under several keys. -/
theorem get?_ofList_const (keys : List String) (value : α) (key : String) :
    (ofList (keys.map fun k => (k, value))).get? key = if key ∈ keys then some value else none := by
  ext v
  have hfun : ∀ k v w, (k, v) ∈ keys.map (fun k => (k, value)) →
      (k, w) ∈ keys.map (fun k => (k, value)) → v = w := by
    simp only [List.mem_map, Prod.mk.injEq]
    rintro k v w ⟨_, _, _, rfl⟩ ⟨_, _, _, rfl⟩
    rfl
  rw [get?_ofList_eq_some_iff hfun]
  by_cases hk : key ∈ keys <;> simp [hk]

end KeyMap
end WalletSession
