import WalletSession.Caveat.EthAccounts

set_option autoImplicit false

/-! # Removals

When a network or an account is removed from the wallet, every caveat value that mentions it has to follow. A
required scope cannot be taken away on its own, and a permission without Ethereum accounts is of no use: in
both cases the permission is revoked. -/

namespace WalletSession

/-- What is removed from the wallet. -/
inductive RemovalKind where
  | scope
  | account
deriving DecidableEq, Inhabited, Repr

namespace RemovalKind

/-- The kinds by name. -/
def names : List (String × RemovalKind) := [("scope", .scope), ("account", .account)]

/-- A kind from its name. -/
def decode : Json.Decoder RemovalKind := Json.decodeChoice names

/-- The name of a kind. -/
def text : RemovalKind → String
  | .scope => "scope"
  | .account => "account"

/-- A kind by its name. -/
def toJson (k : RemovalKind) : Json := .string k.text

end RemovalKind

/-- What to do with a caveat after a removal. -/
inductive RemovalOperation where
  | noop
  | updateValue
  | revokePermission
deriving DecidableEq, Inhabited, Repr

namespace RemovalOperation

/-- The name of an operation. -/
def text : RemovalOperation → String
  | .noop => "noop"
  | .updateValue => "updateValue"
  | .revokePermission => "revokePermission"

/-- The operations by name. -/
def names : List (String × RemovalOperation) :=
  [.noop, .updateValue, .revokePermission].map fun op => (op.text, op)

/-- An operation from its name. -/
def decode : Json.Decoder RemovalOperation := Json.decodeChoice names

/-- An operation by its name. -/
def toJson (op : RemovalOperation) : Json := .string op.text

end RemovalOperation

/-- What a removal comes to for a caveat value. -/
inductive RemovalOutcome where
  | unchanged
  | updated (value : CaveatValue)
  | revoked

namespace RemovalOutcome

/-- What is to be done. -/
def operation : RemovalOutcome → RemovalOperation
  | .unchanged => .noop
  | .updated _ => .updateValue
  | .revoked => .revokePermission

/-- The new value, if there is one. -/
def value? : RemovalOutcome → Option CaveatValue
  | .updated v => some v
  | _ => none

/-! ## As JSON -/

/-- The name of the type in messages. -/
def typeName : String := "CaveatMutatorResult"

/-- Content where none is expected. -/
def unexpectedContent (tag : String) (content : Json) : Except Json.DecodeError Unit :=
  match content with
  | .null => .ok ()
  | v => .error (.invalidType v.found (.bareTag typeName tag))

/-- The outcome of an operation with its content. -/
def ofParts (operation : RemovalOperation) (content : Option Json) : Except Json.DecodeError RemovalOutcome :=
  match operation, content with
  | .noop, none => .ok .unchanged
  | .noop, some v => (unexpectedContent "Noop" v).map fun _ => .unchanged
  | .updateValue, none => .error (.missingField "value")
  | .updateValue, some v => (CaveatValue.decode v).map .updated
  | .revokePermission, none => .ok .revoked
  | .revokePermission, some v => (unexpectedContent "RevokePermission" v).map fun _ => .revoked

/-- An outcome from its operation and value, as the fields of an object or the items of an array. -/
def decode : Json.Decoder RemovalOutcome
  | .object fields => do
    let members := KeyMap.ofList fields
    match members.get? "operation" with
    | none => .error (.missingField "operation")
    | some v => ofParts (← RemovalOperation.decode v) (members.get? "value")
  | .array items =>
    match items with
    | [] => .error (.invalidLength 0 (.tagged typeName))
    | v :: rest => do
      let operation ← RemovalOperation.decode v
      match rest with
      | [] => .error (.invalidLength 1 (.tagged typeName))
      | content :: more => do
        let outcome ← ofParts operation (some content)
        if more.isEmpty then return outcome else .error (.invalidLength items.length .fewerElements)
  | v => .error (.invalidType v.found (.tagged typeName))

/-- The record of an outcome. -/
def toJson (o : RemovalOutcome) : Json :=
  .ofFields [("operation", some o.operation.toJson), ("value", o.value?.map CaveatValue.toJson)]

end RemovalOutcome

/-! ## Carrying out a removal -/

namespace CaveatValue

/-- What the removal of a scope comes to. -/
def removeScope (v : CaveatValue) (scope : String) : RemovalOutcome :=
  if v.required.contains scope then .revoked
  else if v.optional.contains scope then .updated { v with optional := v.optional.erase scope }
  else .unchanged

/-- Whether an Ethereum account is listed under a scope that has them. -/
def listsEthAccount (address : Address) (v : CaveatValue) : Bool :=
  v.scopes.any fun e => isEthScope e.1 && e.2.accounts.any (ethAddress? · == some address)

/-- What the removal of an account comes to; a target that is no address is no account. -/
def removeAccount (v : CaveatValue) (target : String) : RemovalOutcome :=
  match Address.parse? target with
  | none => .unchanged
  | some address =>
    if v.listsEthAccount address then
      let rest := v.withoutEthAccount address
      if rest.ethAccounts.isEmpty then .revoked else .updated rest
    else .unchanged

/-- What a removal comes to. -/
def remove (v : CaveatValue) : RemovalKind → String → RemovalOutcome
  | .scope, target => v.removeScope target
  | .account, target => v.removeAccount target

end CaveatValue
end WalletSession
