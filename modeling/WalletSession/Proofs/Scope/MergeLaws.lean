import Mathlib.Data.Finset.Insert
import Mathlib.Data.Finset.Lattice.Lemmas
import WalletSession.Proofs.KeyMap.Union
import WalletSession.Proofs.Scope.Merge
import WalletSession.Scope.Negotiation

set_option autoImplicit false

/-! # The order of merging

Scope maps that are merged in another order list the same items in another order, and each of them once. So they are
compared by their capabilities, in which lists are sets: merging is associative to the letter, and commutative and
idempotent as far as capabilities go. Flattening merges what the declarations stand for one after the other, hence a
map may as well be flattened in parts (`ScopeMap.merge_laws`). -/

namespace WalletSession

/-! ## Capabilities -/

/-- What is granted under a scope name, whatever the order it is listed in. -/
structure Capabilities where
  methods : Finset String
  notifications : Finset String
  accounts : Finset String
  rpcDocuments : Option (Finset String)
  rpcEndpoints : Option (Finset String)
deriving DecidableEq

namespace Capabilities

/-- What two scopes grant together; documents and endpoints are said if either scope says them. -/
def union (a b : Capabilities) : Capabilities where
  methods := a.methods ∪ b.methods
  notifications := a.notifications ∪ b.notifications
  accounts := a.accounts ∪ b.accounts
  rpcDocuments := a.rpcDocuments.merge (· ∪ ·) b.rpcDocuments
  rpcEndpoints := a.rpcEndpoints.merge (· ∪ ·) b.rpcEndpoints

instance : Std.Associative union where
  assoc a b c := by simp only [union, Finset.union_assoc, (Option.associative_merge _).assoc]

instance : Std.Commutative union where
  comm a b := by simp only [union, Finset.union_comm a.methods, Finset.union_comm a.notifications,
    Finset.union_comm a.accounts, (Option.commutative_merge _).comm a.rpcDocuments,
    (Option.commutative_merge _).comm a.rpcEndpoints]

instance : Std.IdempotentOp union where
  idempotent a := by simp only [union, Finset.union_self, (Option.idempotentOp_merge _).idempotent]

end Capabilities

theorem toFinset_distinctUnion (a b : List String) : (distinctUnion a b).toFinset = a.toFinset ∪ b.toFinset := by
  ext item
  simp

theorem map_toFinset_distinctUnion? (a b : Option (List String)) : (distinctUnion? a b).map List.toFinset =
    (a.map List.toFinset).merge (· ∪ ·) (b.map List.toFinset) := by
  cases a <;> cases b <;> simp [distinctUnion?, toFinset_distinctUnion]

/-- Of two lists of chains none is left. -/
def joinChains (_ _ : Option (List String)) : Option (List String) := none

instance : Std.Commutative joinChains := ⟨fun _ _ => rfl⟩

namespace ScopeObject

theorem scopes_merge (a b : ScopeObject) : (a.merge b).scopes = joinChains a.scopes b.scopes := rfl

/-- The capabilities of a scope object. -/
def capabilities (o : ScopeObject) : Capabilities where
  methods := o.methods.toFinset
  notifications := o.notifications.toFinset
  accounts := o.accounts.toFinset
  rpcDocuments := o.rpcDocuments.map List.toFinset
  rpcEndpoints := o.rpcEndpoints.map List.toFinset

theorem capabilities_merge (a b : ScopeObject) : (a.merge b).capabilities = a.capabilities.union b.capabilities := by
  simp only [capabilities, merge, Capabilities.union, toFinset_distinctUnion, map_toFinset_distinctUnion?]

end ScopeObject

namespace ScopeMap

/-- The capabilities by scope name. -/
def capabilities (m : ScopeMap) : KeyMap Capabilities := m.map fun _ => ScopeObject.capabilities

/-- The lists of chains by scope name. -/
def chainLists (m : ScopeMap) : KeyMap (Option (List String)) := m.map fun _ => ScopeObject.scopes

/-! ## Merging -/

instance : Std.Associative ScopeMap.merge := inferInstanceAs (Std.Associative (KeyMap.unionWith ScopeObject.merge))

@[simp] theorem merge_empty (m : ScopeMap) : m.merge .empty = m := KeyMap.unionWith_empty m

@[simp] theorem empty_merge (m : ScopeMap) : ScopeMap.merge .empty m = m := KeyMap.empty_unionWith m

theorem capabilities_merge (a b : ScopeMap) :
    (a.merge b).capabilities = KeyMap.unionWith Capabilities.union a.capabilities b.capabilities :=
  KeyMap.map_unionWith ScopeObject.capabilities_merge a b

/-! ## Flattening -/

/-- Maps merged one after the other. -/
def mergeAll (maps : List ScopeMap) : ScopeMap := maps.foldl merge .empty

theorem mergeAll_append (before after : List ScopeMap) :
    mergeAll (before ++ after) = (mergeAll before).merge (mergeAll after) := by
  calc mergeAll (before ++ after)
      = after.foldl merge ((mergeAll before).merge .empty) := by rw [mergeAll, List.foldl_append, merge_empty, mergeAll]
    _ = (mergeAll before).merge (mergeAll after) := List.foldl_assoc

/-- What the declarations of a map stand for, in the order of their names. -/
def declared (m : ScopeMap) : List ScopeMap := m.toList.map fun e => e.2.flatten e.1

theorem flatten_eq_mergeAll (m : ScopeMap) : m.flatten = mergeAll m.declared := by
  rw [flatten, mergeAll, declared, List.foldl_map]

section Views

-- A view of scope objects that does not see more of two merged ones than `join` makes of what it sees of each.
variable {β : Type} {view : ScopeObject → β} {join : β → β → β}
  (h : ∀ v w, view (ScopeObject.merge v w) = join (view v) (view w))
include h

theorem map_merge_comm [Std.Commutative join] (a b : ScopeMap) :
    (a.merge b).map (fun _ => view) = (b.merge a).map fun _ => view := by
  unfold merge
  rw [KeyMap.map_unionWith h, KeyMap.map_unionWith h]
  exact Std.Commutative.comm (a.map fun _ => view) (b.map fun _ => view)

variable [Std.Associative join] [Std.Commutative join]

/-- What does not see the order of two maps does not see the order of many. -/
theorem map_mergeAll_of_perm {maps maps' : List ScopeMap} (hperm : maps.Perm maps') :
    (mergeAll maps).map (fun _ => view) = (mergeAll maps').map fun _ => view := by
  have hview (maps : List ScopeMap) : (mergeAll maps).map (fun _ => view) =
      maps.foldl (fun acc m => KeyMap.unionWith join acc (m.map fun _ => view)) .empty :=
    (List.foldl_hom (KeyMap.map fun _ => view) fun acc m => (KeyMap.map_unionWith h acc m).symm).symm
  have hcomm : RightCommutative fun (acc : KeyMap β) (m : ScopeMap) =>
      KeyMap.unionWith join acc (m.map fun _ => view) := ⟨fun acc m m' => by ac_rfl⟩
  rw [hview, hview, hperm.foldl_eq]

/-- Nor does it see whether a map is flattened as a whole or in parts. -/
theorem map_flatten_of_isSplit {m a b : ScopeMap} (hsplit : m.IsSplit a b) :
    m.flatten.map (fun _ => view) = (a.flatten.merge b.flatten).map fun _ => view := by
  have hdeclared : m.declared.Perm (a.declared ++ b.declared) := by
    unfold declared
    rw [← List.map_append]
    exact hsplit.toList_perm.map _
  rw [flatten_eq_mergeAll, map_mergeAll_of_perm h hdeclared, mergeAll_append, ← flatten_eq_mergeAll,
    ← flatten_eq_mergeAll]

end Views

/-- **Scope maps are a monoid under merging**, which is commutative and idempotent up to the order of lists. Of a name
that both maps have, no list of chains is left. Flattening the parts of a map comes to flattening the map. -/
theorem merge_laws (a b c : ScopeMap) :
    a.merge (b.merge c) = (a.merge b).merge c ∧
    a.merge .empty = a ∧ ScopeMap.merge .empty a = a ∧
    (a.merge b).capabilities = (b.merge a).capabilities ∧ (a.merge b).chainLists = (b.merge a).chainLists ∧
    (a.merge a).capabilities = a.capabilities ∧
    ∀ m : ScopeMap, m.IsSplit a b → m.flatten.capabilities = (a.flatten.merge b.flatten).capabilities := by
  refine ⟨(Std.Associative.assoc a b c).symm, merge_empty a, empty_merge a, ?_, ?_, ?_, fun m hsplit => ?_⟩
  · exact map_merge_comm ScopeObject.capabilities_merge a b
  · exact map_merge_comm ScopeObject.scopes_merge a b
  · rw [capabilities_merge]
    exact Std.IdempotentOp.idempotent a.capabilities
  · exact map_flatten_of_isSplit ScopeObject.capabilities_merge hsplit

/-- Within one map a chain is granted first what its namespace hands on to it, whatever the order of the parts. -/
theorem merge_laws_of_namespace_apart :
    let a : ScopeMap := .ofList [("eip155:1", { methods := ["eth_call"] })]
    let b : ScopeMap := .ofList [("eip155", { scopes := some ["eip155:1"], methods := ["eth_sign", "eth_call"] })]
    let m := a.merge b
    m.IsSplit a b ∧
    (m.flatten.get? "eip155:1").map (·.methods) = some ["eth_sign", "eth_call"] ∧
    ((a.flatten.merge b.flatten).get? "eip155:1").map (·.methods) = some ["eth_call", "eth_sign"] ∧
    m.flatten.capabilities = (a.flatten.merge b.flatten).capabilities := by
  intro a b m
  have hsplit : m.IsSplit a b := by
    have ha : m.filter (fun name _ => name == "eip155:1") = a := by decide +kernel
    have hb : m.filter (fun name _ => !(name == "eip155:1")) = b := by decide +kernel
    rw [← ha, ← hb]
    exact m.isSplit_filter (· == "eip155:1")
  obtain ⟨-, -, -, -, -, -, hflatten⟩ := merge_laws a b .empty
  exact ⟨hsplit, by decide +kernel, by decide +kernel, hflatten m hsplit⟩

end ScopeMap
end WalletSession
