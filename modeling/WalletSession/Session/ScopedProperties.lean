import WalletSession.AddChain.Check

set_option autoImplicit false

/-! # Scoped properties

A request may attach properties to the scopes it names. Of these only valid parameters for adding the chain are
kept, and only for scopes that were asked for. -/

namespace WalletSession

/-- The properties that are kept for a scope. -/
structure PropertyBag where
  /-- The parameters for adding the chain of the scope. -/
  addChain : Option AddChainParameters
deriving DecidableEq

namespace PropertyBag

/-- The name of the parameters in a bag. -/
def addChainName : String := "eip3085"

/-- The parameters for adding the chain. -/
def addChainField : Json.Field (Option AddChainParameters) := .optional addChainName AddChainParameters.decode

/-- The shape of a bag. -/
def shape : Json.RecordShape where
  type := "ScopedPropertyBag"
  fields := [addChainField.check]
  closed := false

/-- A bag from its record. -/
def decode : Json.Decoder PropertyBag := fun v => do
  let source ← shape.source v
  let addChain ← shape.field source addChainField
  shape.checkEnd .inPlace source
  return { addChain }

/-- The record of a bag. -/
def toJson (b : PropertyBag) : Json := .ofFields [(addChainName, b.addChain.map AddChainParameters.toJson)]

/-- What is kept of the properties of a scope. -/
def ofProperties (isHttpUrl : String → Bool) (scope : String) (properties : Json) : PropertyBag :=
  ⟨(properties.field? addChainName).bind fun v => (AddChain.check isHttpUrl scope v).toOption⟩

end PropertyBag

/-- The properties that are kept, by scope. -/
abbrev ScopedProperties := KeyMap PropertyBag

namespace ScopedProperties

/-- What is kept of the properties attached to scopes, given which scopes were asked for. -/
def sanitize (isHttpUrl requested : String → Bool) (properties : KeyMap Json) : ScopedProperties :=
  properties.filterMap fun scope v => if requested scope then some (.ofProperties isHttpUrl scope v) else none

/-- The object of properties. -/
def toJson (m : ScopedProperties) : Json := .ofMap (m.map fun _ b => b.toJson)

end ScopedProperties
end WalletSession
