import WalletSession.Scope.Merge
import WalletSession.Scope.Validity

set_option autoImplicit false

/-! # Negotiating scopes

Declared scopes become granted scopes in two steps: declarations that are not valid are dropped, and a
declaration under a namespace that names chains is handed on to each of these chains. What a chain gets from
several declarations is merged in the order of their names. -/

namespace WalletSession

/-! ## Flattening -/

/-- The scopes that one declaration stands for: the chains it names under a namespace, or just itself. -/
def ScopeObject.flatten (name : String) (o : ScopeObject) : ScopeMap :=
  match o.scopes with
  | some nested =>
    if (ScopeName.parse name).isBare then
      KeyMap.ofList (nested.map fun chain => (chain, { o with scopes := none }))
    else KeyMap.ofList [(name, o)]
  | none => KeyMap.ofList [(name, o)]

/-- All declarations flattened and merged. -/
def ScopeMap.flatten (m : ScopeMap) : ScopeMap :=
  m.toList.foldl (fun acc e => acc.merge (e.2.flatten e.1)) .empty

/-! ## Granted scopes -/

/-- The scopes that a session cannot do without, and those it may get in addition. -/
structure ScopeSides (α : Type) where
  required : α
  optional : α

/-- What is left of the received declarations, flattened. -/
def ScopeSides.negotiate (raw : ScopeSides RawScopes) : ScopeSides ScopeMap :=
  ⟨raw.required.valid.flatten, raw.optional.valid.flatten⟩

/-- What is left of some scope objects, flattened. -/
def ScopeSides.renegotiate (sides : ScopeSides ScopeMap) : ScopeSides ScopeMap :=
  ⟨sides.required.valid.flatten, sides.optional.valid.flatten⟩

end WalletSession
