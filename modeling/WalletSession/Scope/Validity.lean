import WalletSession.Scope.Object

set_option autoImplicit false

/-! # Valid declarations

A declaration is valid for its name if the name is a namespace or a chain id, the chains it is meant for are
chains of that namespace and only named under the namespace itself, and no method or notification has an empty
name. Declarations that are not valid are dropped, one by one. -/

namespace WalletSession

/-- Whether `name` denotes a chain of the namespace `ns`. -/
def isChainOf (ns : String) (name : String) : Bool :=
  match ScopeName.parse name with
  | .chain id => id.ns == ns
  | _ => false

/-- Whether a scope object is a valid declaration for a scope name. -/
def ScopeObject.isValidFor (o : ScopeObject) (name : String) : Bool :=
  let nestedAllowed := match ScopeName.parse name with
    | .bare ns => o.nested.all (isChainOf ns)
    | .chain _ => o.nested.isEmpty
    | .unrecognized => false
  nestedAllowed && o.methods.all (!·.isEmpty) && o.notifications.all (!·.isEmpty)

/-- The valid declaration that a value is for a scope name. -/
def ScopeObject.validOfJson? (name : String) (v : Json) : Option ScopeObject :=
  (ScopeObject.ofJson? v).filter (·.isValidFor name)

/-- Whether a value is a valid declaration for a scope name. -/
def isValidDeclaration (name : String) (v : Json) : Bool := (ScopeObject.validOfJson? name v).isSome

/-- The valid declarations among those received. -/
def RawScopes.valid (raw : RawScopes) : ScopeMap := raw.filterMap ScopeObject.validOfJson?

theorem RawScopes.get?_valid (raw : RawScopes) (name : String) :
    raw.valid.get? name = (raw.get? name).bind (ScopeObject.validOfJson? name) :=
  KeyMap.get?_filterMap ScopeObject.validOfJson? raw name

/-- The valid declarations among scope objects. -/
def ScopeMap.valid (m : ScopeMap) : ScopeMap := m.filter fun name o => o.isValidFor name

theorem ScopeMap.get?_valid (m : ScopeMap) (name : String) :
    m.valid.get? name = (m.get? name).filter (·.isValidFor name) :=
  KeyMap.get?_filter _ m name

end WalletSession
