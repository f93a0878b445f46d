import WalletSession.Json.Decode

set_option autoImplicit false

/-! # Notifications

A chain announces an event by a notification. A wallet passes it on as a `wallet_notify` message that also
names the scope it belongs to, and on the wire every message carries the version of JSON-RPC. -/

namespace WalletSession

/-! ## The version mark -/

/-- The version of JSON-RPC. -/
inductive RpcVersion where
  | two
deriving DecidableEq, Inhabited

namespace RpcVersion

/-- The only version. -/
def names : List (String × RpcVersion) := [("2.0", .two)]

/-- A version from its name. -/
def decode : Json.Decoder RpcVersion := Json.decodeChoice names

/-- A version by its name. -/
def toJson : RpcVersion → Json
  | .two => .string "2.0"

end RpcVersion

/-! ## Messages of a chain -/

/-- An event that a chain announces. -/
structure Notification where
  method : String
  params : Json

namespace Notification

/-- The method of a notification. -/
def methodField : Json.Field String := .required "method" Json.decodeString
/-- The parameters of a notification. -/
def paramsField : Json.Field Json := .withDefault "params" Json.decodeAny .null

/-- The shape of a notification. -/
def shape : Json.RecordShape where
  type := "Notification"
  fields := [methodField.check, paramsField.check]
  closed := false

/-- A notification from its record. -/
def decodeAs (reading : Json.Reading) : Json.Decoder Notification := fun v => do
  let source ← shape.source v
  let method ← shape.field source methodField
  let params ← shape.field source paramsField
  shape.checkEnd reading source
  return ⟨method, params⟩

/-- A notification from its record. -/
def decode : Json.Decoder Notification := decodeAs .inPlace

/-- The fields of a notification; parameters that are `null` are left out. -/
def fields (n : Notification) : List (String × Option Json) :=
  [("method", some (.string n.method)), ("params", if n.params.isNull then none else some n.params)]

/-- The record of a notification. -/
def toJson (n : Notification) : Json := .ofFields n.fields

end Notification

/-! ## Messages of a wallet -/

/-- What a `wallet_notify` message says: a notification and the scope it comes from. -/
structure ScopedNotification where
  scope : String
  notification : Notification

namespace ScopedNotification

/-- The scope. -/
def scopeField : Json.Field String := .required "scope" Json.decodeString
/-- The notification. -/
def notificationField (reading : Json.Reading) : Json.Field Notification :=
  .required "notification" (Notification.decodeAs reading)

/-- The shape of what a message says. -/
def shape (reading : Json.Reading) : Json.RecordShape where
  type := "WalletNotifyParams"
  fields := [scopeField.check, (notificationField reading).check]
  closed := false

/-- What a message says, from its record. -/
def decodeAs (reading : Json.Reading) : Json.Decoder ScopedNotification := fun v => do
  let source ← (shape reading).source v
  let scope ← (shape reading).field source scopeField
  let notification ← (shape reading).field source (notificationField reading)
  (shape reading).checkEnd reading source
  return ⟨scope, notification⟩

/-- The record of what a message says. -/
def toJson (s : ScopedNotification) : Json :=
  .object [("scope", .string s.scope), ("notification", s.notification.toJson)]

end ScopedNotification

/-- A chain's notification as a wallet passes it on. -/
structure WalletNotification where
  method : String
  params : ScopedNotification

namespace WalletNotification

/-- The method of these messages. -/
def methodName : String := "wallet_notify"

/-- The message that passes on a notification of a scope. -/
def wrap (scope : String) (notification : Notification) : WalletNotification :=
  ⟨methodName, ⟨scope, notification⟩⟩

/-- The method. -/
def methodField : Json.Field String := .required "method" Json.decodeString
/-- What the message says. -/
def paramsField (reading : Json.Reading) : Json.Field ScopedNotification :=
  .required "params" (ScopedNotification.decodeAs reading)

/-- The shape of a message. -/
def shape (reading : Json.Reading) : Json.RecordShape where
  type := "WalletNotification"
  fields := [methodField.check, (paramsField reading).check]
  closed := false

/-- A message from its record. -/
def decodeAs (reading : Json.Reading) : Json.Decoder WalletNotification := fun v => do
  let source ← (shape reading).source v
  let method ← (shape reading).field source methodField
  let params ← (shape reading).field source (paramsField reading)
  (shape reading).checkEnd reading source
  return ⟨method, params⟩

/-- A message from its record. -/
def decode : Json.Decoder WalletNotification := decodeAs .inPlace

/-- The fields of a message. -/
def fields (n : WalletNotification) : List (String × Option Json) :=
  [("method", some (.string n.method)), ("params", some n.params.toJson)]

/-- The record of a message. -/
def toJson (n : WalletNotification) : Json := .ofFields n.fields

end WalletNotification

/-! ## Messages on the wire -/

/-- A message with the version mark among its own fields. -/
structure WireMessage (α : Type) where
  version : RpcVersion
  message : α

namespace WireMessage

variable {α : Type}

/-- The message marked with the current version. -/
def mark (message : α) : WireMessage α := ⟨.two, message⟩

/-- A marked message from an object: the mark is looked at first, then the message is read from all fields. -/
def decode (decodeMessage : Json.Reading → Json.Decoder α) : Json.Decoder (WireMessage α)
  | .object fields =>
    match (KeyMap.ofList fields).get? "jsonrpc" with
    | some mark => do
      let version ← RpcVersion.decode mark
      let message ← decodeMessage .setAside (.object fields)
      return ⟨version, message⟩
    | none => .error (.missingField "jsonrpc")
  | v => .error (.invalidType v.found (.record "WireNotification"))

/-- The record of a marked message. -/
def toJson (fields : α → List (String × Option Json)) (m : WireMessage α) : Json :=
  .ofFields (("jsonrpc", some m.version.toJson) :: fields m.message)

end WireMessage
end WalletSession
