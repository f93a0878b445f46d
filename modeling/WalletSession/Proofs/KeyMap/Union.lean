import WalletSession.Proofs.KeyMap

set_option autoImplicit false

/-! # Unions of maps

A union joins look-ups (`KeyMap.get?_unionWith_eq_merge`), so it has the laws of the function that joins two values of
one key, and the map without entries is its unit. Entries that are split between two maps are together in their union
again; listed one map after the other, they are only out of order (`KeyMap.IsSplit.toList_perm`). -/

namespace WalletSession
namespace KeyMap

variable {α β : Type} {f : α → α → α}

/-! ## Laws of unions -/

theorem get?_unionWith_eq_merge (f : α → α → α) (a b : KeyMap α) (key : String) :
    (unionWith f a b).get? key = (a.get? key).merge f (b.get? key) := by
  rw [get?_unionWith]
  cases a.get? key <;> cases b.get? key <;> rfl

@[simp] theorem unionWith_empty (m : KeyMap α) : unionWith f m .empty = m := rfl

@[simp] theorem empty_unionWith (m : KeyMap α) : unionWith f .empty m = m := by
  ext key value
  rw [get?_unionWith_eq_merge, get?_empty, Option.merge_none_left]

instance [Std.Associative f] : Std.Associative (unionWith f) where
  assoc a b c := by
    refine ext_get? fun key => ?_
    simp only [get?_unionWith_eq_merge]
    exact (Option.associative_merge f).assoc _ _ _

instance [Std.Commutative f] : Std.Commutative (unionWith f) where
  comm a b := by
    refine ext_get? fun key => ?_
    simp only [get?_unionWith_eq_merge]
    exact (Option.commutative_merge f).comm _ _

instance [Std.IdempotentOp f] : Std.IdempotentOp (unionWith f) where
  idempotent m := by
    refine ext_get? fun key => ?_
    rw [get?_unionWith_eq_merge]
    exact (Option.idempotentOp_merge f).idempotent _

/-! ### The later value counts -/

theorem get?_override (a b : KeyMap α) (key : String) : (a.override b).get? key = (b.get? key).or (a.get? key) := by
  rw [override, get?_unionWith_eq_merge]
  cases a.get? key <;> cases b.get? key <;> rfl

theorem override_assoc (a b c : KeyMap α) : (a.override b).override c = a.override (b.override c) := by
  refine ext_get? fun key => ?_
  simp only [get?_override, Option.or_assoc]

/-! ### Views -/

/-- A view of values that respects joining is one of maps that respects unions. -/
theorem map_unionWith {view : α → β} {g : β → β → β} (h : ∀ v w, view (f v w) = g (view v) (view w)) (a b : KeyMap α) :
    (unionWith f a b).map (fun _ => view) = unionWith g (a.map fun _ => view) (b.map fun _ => view) := by
  refine ext_get? fun key => ?_
  simp only [get?_map, get?_unionWith_eq_merge]
  cases a.get? key <;> cases b.get? key <;> simp [h]

/-! ## Splits -/

/-- The entries of `m` are split between `a` and `b`. -/
structure IsSplit (m a b : KeyMap α) : Prop where
  get?_eq_some_iff : ∀ key value, m.get? key = some value ↔ a.get? key = some value ∨ b.get? key = some value
  disjoint : ∀ key, a.contains key = true → b.contains key = false

theorem isSplit_filter (p : String → Bool) (m : KeyMap α) :
    m.IsSplit (m.filter fun key _ => p key) (m.filter fun key _ => !p key) := by
  constructor
  case get?_eq_some_iff =>
    intro key value
    simp only [get?_filter, Option.filter_eq_some_iff, Bool.not_eq_true', ← and_or_left]
    cases p key <;> simp
  case disjoint =>
    intro key hkey
    simp only [contains, get?_filter] at hkey ⊢
    cases hp : p key
    · simp [hp] at hkey
    · simp

theorem nodup_toList (m : KeyMap α) : m.toList.Nodup := by
  refine m.ascending.imp fun {e e'} hlt => ?_
  rintro rfl
  exact String.lt_irrefl _ hlt

variable {m a b : KeyMap α}

theorem IsSplit.toList_perm (h : m.IsSplit a b) : m.toList.Perm (a.toList ++ b.toList) := by
  have hnodup : (a.toList ++ b.toList).Nodup := by
    refine List.nodup_append.2 ⟨a.nodup_toList, b.nodup_toList, ?_⟩
    rintro ⟨key, value⟩ ha _ hb rfl
    have hcontains : a.contains key = true := contains_iff_exists.2 ⟨value, mem_toList.1 ha⟩
    have hnone : b.get? key = none := contains_eq_false_iff.1 (h.disjoint key hcontains)
    rw [mem_toList.1 hb] at hnone
    cases hnone
  rw [List.perm_ext_iff_of_nodup m.nodup_toList hnodup]
  rintro ⟨key, value⟩
  rw [List.mem_append, mem_toList, mem_toList, mem_toList, h.get?_eq_some_iff]

end KeyMap
end WalletSession
