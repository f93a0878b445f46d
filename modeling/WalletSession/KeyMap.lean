set_option autoImplicit false

/-! # Maps with string keys

A `KeyMap α` holds at most one value per key and lists its entries in increasing order of their keys,
which for strings is also the byte order of their UTF-8 text. The order is part of the type, so two maps
with the same look-ups are equal (`KeyMap.ext_get?`), and every operation is described by what it does to
`KeyMap.get?`. -/

namespace WalletSession

/-! ## Entry lists -/

/-- Entries in strictly increasing order of their keys. -/
def Ascending {α : Type} (entries : List (String × α)) : Prop :=
  entries.Pairwise fun a b => a.1 < b.1

namespace Entries

variable {α β : Type}

/-- The value listed first for `key`. -/
def find? (key : String) : List (String × α) → Option α
  | [] => none
  | (k, v) :: rest => if k = key then some v else find? key rest

/-- Put `value` under `key`, in order, replacing an entry of the same key. -/
def insert (key : String) (value : α) : List (String × α) → List (String × α)
  | [] => [(key, value)]
  | (k, v) :: rest =>
    if key < k then (key, value) :: (k, v) :: rest
    else if k = key then (key, value) :: rest
    else (k, v) :: insert key value rest

theorem ascending_nil : Ascending ([] : List (String × α)) := List.Pairwise.nil

theorem ascending_cons {e : String × α} {rest : List (String × α)} :
    Ascending (e :: rest) ↔ (∀ e' ∈ rest, e.1 < e'.1) ∧ Ascending rest := by
  simp [Ascending, List.pairwise_cons]

theorem mem_insert {key : String} {value : α} {entries : List (String × α)} {e : String × α}
    (h : e ∈ insert key value entries) : e = (key, value) ∨ e ∈ entries := by
  induction entries with
  | nil => simpa [insert] using h
  | cons head rest ih => grind [insert]

theorem ascending_insert (key : String) (value : α) {entries : List (String × α)}
    (h : Ascending entries) : Ascending (insert key value entries) := by
  induction entries with
  | nil => simp [insert, Ascending]
  | cons head rest ih =>
    obtain ⟨k, v⟩ := head
    rw [ascending_cons] at h
    unfold insert
    split
    · next hlt =>
      refine ascending_cons.2 ⟨fun e he => ?_, ascending_cons.2 h⟩
      rcases List.mem_cons.1 he with rfl | he
      · exact hlt
      · exact String.lt_trans hlt (h.1 e he)
    · split
      · next heq => exact ascending_cons.2 ⟨fun e he => heq ▸ h.1 e he, h.2⟩
      · next hnlt hne =>
        refine ascending_cons.2 ⟨fun e he => ?_, ih h.2⟩
        rcases mem_insert he with rfl | he
        · exact String.not_le.1 fun hle => hne (String.le_antisymm (String.not_lt.1 hnlt) hle)
        · exact h.1 e he

theorem find?_insert (key other : String) (value : α) (entries : List (String × α)) :
    find? other (insert key value entries) = if key = other then some value else find? other entries := by
  induction entries with
  | nil => rfl
  | cons head rest ih => grind [insert, find?]

theorem find?_eq_none_of_lt {key : String} {entries : List (String × α)}
    (h : ∀ e ∈ entries, key < e.1) : find? key entries = none := by
  induction entries with
  | nil => rfl
  | cons head rest ih =>
    have hne : head.1 ≠ key := fun heq => String.lt_irrefl key (heq ▸ h head (by simp))
    simp [find?, hne, ih fun e he => h e (by simp [he])]

theorem mem_iff_find? {key : String} {value : α} {entries : List (String × α)}
    (h : Ascending entries) : (key, value) ∈ entries ↔ find? key entries = some value := by
  induction entries with
  | nil => simp [find?]
  | cons head rest ih =>
    obtain ⟨k, v⟩ := head
    rw [ascending_cons] at h
    unfold find?
    split
    · next heq =>
      subst heq
      constructor
      · intro hmem
        rcases List.mem_cons.1 hmem with heq | hmem
        · simp_all
        · exact absurd (h.1 _ hmem) (String.lt_irrefl k)
      · intro hv
        simp_all
    · next hne =>
      rw [← ih h.2]
      simp [Ne.symm hne]

/-- Ordered entry lists are determined by their look-ups. -/
theorem ext_find? {as bs : List (String × α)} (ha : Ascending as) (hb : Ascending bs)
    (h : ∀ key, find? key as = find? key bs) : as = bs := by
  induction as generalizing bs with
  | nil =>
    cases bs with
    | nil => rfl
    | cons head rest => simpa [find?] using h head.1
  | cons a as ih =>
    cases bs with
    | nil => simpa [find?] using h a.1
    | cons b bs =>
      obtain ⟨k, v⟩ := a
      obtain ⟨k', v'⟩ := b
      rw [ascending_cons] at ha hb
      have hkk : k = k' := by
        have hk := h k
        have hk' := h k'
        simp only [find?] at hk hk'
        have h1 : ¬ k < k' := fun hlt => by
          have := @find?_eq_none_of_lt _ k bs
            fun e he => String.lt_trans hlt (hb.1 e he)
          have hne : k' ≠ k := fun heq => String.lt_irrefl k (heq ▸ hlt)
          simp_all
        have h2 : ¬ k' < k := fun hlt => by
          have := @find?_eq_none_of_lt _ k' as
            fun e he => String.lt_trans hlt (ha.1 e he)
          have hne : k ≠ k' := fun heq => String.lt_irrefl k' (heq ▸ hlt)
          simp_all
        exact String.le_antisymm (String.not_lt.1 h2) (String.not_lt.1 h1)
      subst hkk
      have hv : v = v' := by simpa [find?] using h k
      subst hv
      have hrest : as = bs := ih ha.2 hb.2 fun key => by
        have hkey := h key
        simp only [find?] at hkey
        by_cases heq : k = key
        · subst heq
          rw [find?_eq_none_of_lt ha.1, find?_eq_none_of_lt hb.1]
        · simpa [heq] using hkey
      rw [hrest]

theorem find?_filterMap (f : String → α → Option β) (key : String) (entries : List (String × α))
    (h : Ascending entries) :
    find? key (entries.filterMap fun e => (f e.1 e.2).map (e.1, ·)) = (find? key entries).bind (f key) := by
  induction entries with
  | nil => rfl
  | cons head rest ih =>
    obtain ⟨k, v⟩ := head
    rw [ascending_cons] at h
    have ih := ih h.2
    simp only [List.filterMap_cons, find?]
    by_cases hk : k = key
    · subst hk
      cases hf : f k v with
      | none => simp [hf, ih, find?_eq_none_of_lt h.1]
      | some w => simp [hf, find?]
    · cases hf : f k v with
      | none => simp [hk, ih]
      | some w => simp [hk, ih, find?]

end Entries

/-! ## Maps -/

/-- A finite map from strings, listed in increasing order of the keys. -/
structure KeyMap (α : Type) where
  /-- The entries, smallest key first. -/
  toList : List (String × α)
  /-- The keys increase strictly. -/
  ascending : Ascending toList

namespace KeyMap

variable {α β : Type}

instance [DecidableEq α] : DecidableEq (KeyMap α)
  | ⟨as, _⟩, ⟨bs, _⟩ =>
    if h : as = bs then .isTrue (by subst h; rfl) else .isFalse fun heq => h (congrArg toList heq)

/-- The map without entries. -/
def empty : KeyMap α := ⟨[], Entries.ascending_nil⟩

instance : Inhabited (KeyMap α) := ⟨empty⟩

/-- The value under `key`. -/
def get? (m : KeyMap α) (key : String) : Option α := Entries.find? key m.toList

/-- Put `value` under `key`, replacing the value that was there. -/
def insert (m : KeyMap α) (key : String) (value : α) : KeyMap α :=
  ⟨Entries.insert key value m.toList, Entries.ascending_insert key value m.ascending⟩

/-- The map with the given entries; of two entries with one key the last counts. -/
def ofList (entries : List (String × α)) : KeyMap α :=
  entries.foldl (fun m e => m.insert e.1 e.2) empty

/-- The keys, smallest first. -/
def keys (m : KeyMap α) : List String := m.toList.map (·.1)

/-- Whether there is a value under `key`. -/
def contains (m : KeyMap α) (key : String) : Bool := (m.get? key).isSome

/-- Whether there is no entry. -/
def isEmpty (m : KeyMap α) : Bool := m.toList.isEmpty

/-- The number of entries. -/
def size (m : KeyMap α) : Nat := m.toList.length

/-- Keep the entries that `f` maps to a value, with that value. -/
def filterMap (f : String → α → Option β) (m : KeyMap α) : KeyMap β :=
  ⟨m.toList.filterMap fun e => (f e.1 e.2).map (e.1, ·), by
    refine List.Pairwise.filterMap _ (fun a a' hlt b hb b' hb' => ?_) m.ascending
    simp only [Option.map_eq_some_iff] at hb hb'
    obtain ⟨_, _, rfl⟩ := hb
    obtain ⟨_, _, rfl⟩ := hb'
    exact hlt⟩

/-- Keep the entries that satisfy `p`. -/
def filter (p : String → α → Bool) (m : KeyMap α) : KeyMap α :=
  m.filterMap fun k v => if p k v then some v else none

/-- Replace every value, the key given. -/
def map (f : String → α → β) (m : KeyMap α) : KeyMap β := m.filterMap fun k v => some (f k v)

/-- Remove the entry of `key`. -/
def erase (m : KeyMap α) (key : String) : KeyMap α := m.filter fun k _ => k ≠ key

/-- All entries of both maps; where both have a key, `f` joins the two values. -/
def unionWith (f : α → α → α) (a b : KeyMap α) : KeyMap α :=
  b.toList.foldl (fun m e => m.insert e.1 (match m.get? e.1 with | some v => f v e.2 | none => e.2)) a

/-- All entries of both maps; where both have a key, the value of `b` counts. -/
def override (a b : KeyMap α) : KeyMap α := unionWith (fun _ v => v) a b

/-- Replace every value by its image under `f`, unless `f` fails, first on the smallest key. -/
def traverse {ε : Type} (f : α → Except ε β) (m : KeyMap α) : Except ε (KeyMap β) :=
  match m.toList.findSome? fun e => match f e.2 with | .error err => some err | .ok _ => none with
  | some err => .error err
  | none => .ok (m.filterMap fun _ v => (f v).toOption)

/-! ## Look-ups -/

/-- Maps with the same look-ups are equal. -/
@[ext] theorem ext_get? {a b : KeyMap α} (h : ∀ key, a.get? key = b.get? key) : a = b := by
  obtain ⟨as, ha⟩ := a
  obtain ⟨bs, hb⟩ := b
  obtain rfl : as = bs := Entries.ext_find? ha hb h
  rfl

theorem mem_toList {m : KeyMap α} {key : String} {value : α} :
    (key, value) ∈ m.toList ↔ m.get? key = some value :=
  Entries.mem_iff_find? m.ascending

@[simp] theorem get?_empty (key : String) : (empty : KeyMap α).get? key = none := rfl

theorem get?_insert (m : KeyMap α) (key other : String) (value : α) :
    (m.insert key value).get? other = if key = other then some value else m.get? other :=
  Entries.find?_insert key other value m.toList

theorem get?_filterMap (f : String → α → Option β) (m : KeyMap α) (key : String) :
    (m.filterMap f).get? key = (m.get? key).bind (f key) :=
  Entries.find?_filterMap f key m.toList m.ascending

theorem get?_filter (p : String → α → Bool) (m : KeyMap α) (key : String) :
    (m.filter p).get? key = (m.get? key).filter (p key) := by
  unfold filter
  rw [get?_filterMap]
  cases m.get? key <;> simp [Option.filter]

theorem get?_map (f : String → α → β) (m : KeyMap α) (key : String) :
    (m.map f).get? key = (m.get? key).map (f key) := by
  unfold map
  rw [get?_filterMap]
  cases m.get? key <;> rfl

theorem get?_erase (m : KeyMap α) (key other : String) :
    (m.erase key).get? other = if key = other then none else m.get? other := by
  unfold erase
  rw [get?_filter]
  by_cases h : key = other
  · subst h; cases m.get? key <;> simp [Option.filter]
  · cases m.get? other <;> simp [Option.filter, h, Ne.symm h]

/-- Folding a joined insertion over entries with distinct keys joins each value once. -/
theorem get?_foldl_join (f : α → α → α) (entries : List (String × α)) (h : Ascending entries)
    (m : KeyMap α) (key : String) :
    (entries.foldl (fun m e =>
        m.insert e.1 (match m.get? e.1 with | some v => f v e.2 | none => e.2)) m).get? key =
      match Entries.find? key entries with
      | none => m.get? key
      | some w => some (match m.get? key with | some v => f v w | none => w) := by
  induction entries generalizing m with
  | nil => rfl
  | cons head rest ih =>
    obtain ⟨k, v⟩ := head
    rw [Entries.ascending_cons] at h
    rw [List.foldl_cons, ih h.2, get?_insert]
    by_cases hk : k = key
    · subst hk
      simp [Entries.find?_eq_none_of_lt h.1, Entries.find?]
    · simp [Entries.find?, hk]

theorem get?_unionWith (f : α → α → α) (a b : KeyMap α) (key : String) :
    (unionWith f a b).get? key =
      match a.get? key, b.get? key with
      | some v, some w => some (f v w)
      | some v, none => some v
      | none, w => w := by
  unfold unionWith
  rw [get?_foldl_join f b.toList b.ascending]
  show (match b.get? key with | none => _ | some w => _) = _
  cases a.get? key <;> cases b.get? key <;> rfl

/-- A traversal that succeeds keeps every key, with the image of its value. -/
theorem get?_traverse {ε : Type} {f : α → Except ε β} {m : KeyMap α} {r : KeyMap β}
    (h : m.traverse f = .ok r) (key : String) :
    r.get? key = (m.get? key).bind fun v => (f v).toOption := by
  unfold traverse at h
  split at h
  · cases h
  · cases h
    exact get?_filterMap _ m key

/-- A traversal succeeds exactly when `f` does on every value. -/
theorem traverse_ok_iff {ε : Type} {f : α → Except ε β} {m : KeyMap α} :
    (∃ r, m.traverse f = .ok r) ↔ ∀ key v, m.get? key = some v → ∃ w, f v = .ok w := by
  unfold traverse
  constructor
  · rintro ⟨r, h⟩ key v hv
    split at h
    · cases h
    · next hnone =>
      have := List.findSome?_eq_none_iff.1 hnone (key, v) (mem_toList.2 hv)
      cases hf : f v with
      | ok w => exact ⟨w, rfl⟩
      | error e => simp [hf] at this
  · intro h
    have hnone : (m.toList.findSome? fun e =>
        match f e.2 with | .error err => some err | .ok _ => none) = none := by
      refine List.findSome?_eq_none_iff.2 fun e he => ?_
      obtain ⟨w, hw⟩ := h e.1 e.2 (mem_toList.1 he)
      simp [hw]
    rw [hnone]
    exact ⟨_, rfl⟩

theorem contains_iff_exists {m : KeyMap α} {key : String} :
    m.contains key = true ↔ ∃ value, m.get? key = some value := by
  rw [contains, Option.isSome_iff_exists]

theorem contains_eq_false_iff {m : KeyMap α} {key : String} : m.contains key = false ↔ m.get? key = none := by
  rw [contains, Option.isSome_eq_false_iff, Option.isNone_iff_eq_none]

theorem mem_keys {m : KeyMap α} {key : String} : key ∈ m.keys ↔ m.contains key = true := by
  simp only [keys, List.mem_map, contains, Option.isSome_iff_exists, ← mem_toList]
  exact ⟨fun ⟨e, he, hk⟩ => ⟨e.2, hk ▸ he⟩, fun ⟨v, hv⟩ => ⟨_, hv, rfl⟩⟩

end KeyMap
end WalletSession
