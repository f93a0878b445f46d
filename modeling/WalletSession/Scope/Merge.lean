import WalletSession.Scope.Object

set_option autoImplicit false

/-! # Merging scopes

Two scope objects of one name grant together what either grants; what the first says comes first, and nothing
is said twice. -/

namespace WalletSession

/-- The items of both lists in order, each once. -/
def distinctUnion (a b : List String) : List String := (a ++ b).eraseDups

@[simp] theorem mem_distinctUnion {a b : List String} {item : String} :
    item ∈ distinctUnion a b ↔ item ∈ a ∨ item ∈ b := by
  simp [distinctUnion]

/-- The items of two lists of which either may be missing. -/
def distinctUnion? : Option (List String) → Option (List String) → Option (List String)
  | none, none => none
  | a, b => some (distinctUnion (a.getD []) (b.getD []))

/-- What two scope objects of one name grant together; which chains they were meant for is settled. -/
def ScopeObject.merge (a b : ScopeObject) : ScopeObject where
  scopes := none
  methods := distinctUnion a.methods b.methods
  notifications := distinctUnion a.notifications b.notifications
  accounts := distinctUnion a.accounts b.accounts
  rpcDocuments := distinctUnion? a.rpcDocuments b.rpcDocuments
  rpcEndpoints := distinctUnion? a.rpcEndpoints b.rpcEndpoints

/-- The scopes of both maps; objects of one name are merged. -/
def ScopeMap.merge (a b : ScopeMap) : ScopeMap := KeyMap.unionWith ScopeObject.merge a b

theorem ScopeMap.get?_merge (a b : ScopeMap) (name : String) :
    (a.merge b).get? name =
      match a.get? name, b.get? name with
      | some v, some w => some (v.merge w)
      | some v, none => some v
      | none, w => w := by
  rw [merge, KeyMap.get?_unionWith]
  cases a.get? name <;> cases b.get? name <;> rfl

end WalletSession
