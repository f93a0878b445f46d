import WalletSession.Json.Decode

set_option autoImplicit false

/-! # Error codes

The error codes of JSON-RPC, of wallets (EIP-1193) and of scope negotiation (CAIP-25). Every signed 64-bit
number is a code: one without a meaning of its own is a server error. -/

namespace WalletSession

/-- What went wrong with a call. -/
inductive ErrorCode where
  | parseError
  | invalidRequest
  | methodNotFound
  | invalidParams
  | internalError
  | userRejectedRequest
  | unauthorized
  | unsupportedMethod
  | unsupportedChains
  | unsupportedMethods
  | unsupportedNotifications
  | serverError (code : Int)
deriving DecidableEq

namespace ErrorCode

/-- The number of a code. -/
def code : ErrorCode → Int
  | .parseError => -32700
  | .invalidRequest => -32600
  | .methodNotFound => -32601
  | .invalidParams => -32602
  | .internalError => -32603
  | .userRejectedRequest => 4001
  | .unauthorized => 4100
  | .unsupportedMethod => 4200
  | .unsupportedChains => 5100
  | .unsupportedMethods => 5101
  | .unsupportedNotifications => 5102
  | .serverError code => code

/-- The code of a number. -/
def ofCode (n : Int) : ErrorCode :=
  if n = -32700 then .parseError
  else if n = -32600 then .invalidRequest
  else if n = -32601 then .methodNotFound
  else if n = -32602 then .invalidParams
  else if n = -32603 then .internalError
  else if n = 4001 then .userRejectedRequest
  else if n = 4100 then .unauthorized
  else if n = 4200 then .unsupportedMethod
  else if n = 5100 then .unsupportedChains
  else if n = 5101 then .unsupportedMethods
  else if n = 5102 then .unsupportedNotifications
  else .serverError n

/-- What a code says. -/
def message : ErrorCode → String
  | .parseError => "Parse error"
  | .invalidRequest => "Invalid request"
  | .methodNotFound => "Method not found"
  | .invalidParams => "Invalid params"
  | .internalError => "Internal error"
  | .userRejectedRequest => "User rejected the request"
  | .unauthorized => "Unauthorized"
  | .unsupportedMethod => "Unsupported method"
  | .unsupportedChains => "Requested chains are not supported"
  | .unsupportedMethods => "Requested methods are not supported"
  | .unsupportedNotifications => "Requested notifications are not supported"
  | .serverError _ => "Server error"

/-- A code is written as its number. -/
def toJson (c : ErrorCode) : Json := .integer c.code

/-- A code is read from its number. -/
def decode : Json.Decoder ErrorCode := fun v => (Json.decodeSignedWord v).map ofCode

end ErrorCode

/-- An error as it is sent to the caller. -/
structure RpcError where
  code : ErrorCode
  message : String
  data : Option Json

namespace RpcError

/-- The error with the message of its code. -/
def ofCode (code : ErrorCode) : RpcError := ⟨code, code.message, none⟩

/-- Parameters that are not what the method takes. -/
def invalidParams (message : String) : RpcError := ⟨.invalidParams, message, none⟩

/-- The error in words: what its code says and its own message, if that says something else. -/
def text (e : RpcError) : String :=
  if e.message = e.code.message then e.message else e.code.message ++ ": " ++ e.message

/-- The fields of an error; `data` may be left out of an object but not of an array. -/
def codeField : Json.Field ErrorCode := .required "code" ErrorCode.decode
/-- The message of an error. -/
def messageField : Json.Field String := .required "message" Json.decodeString
/-- What else is known about an error. -/
def dataField : Json.Field (Option Json) :=
  ⟨"data", Json.decodeOption Json.decodeAny, some none, none⟩

/-- The shape of an error. -/
def shape : Json.RecordShape where
  type := "RpcError"
  fields := [codeField.check, messageField.check, dataField.check]
  closed := true

/-- An error from its record. -/
def decode : Json.Decoder RpcError := fun v => do
  let source ← shape.source v
  let code ← shape.field source codeField
  let message ← shape.field source messageField
  let data ← shape.field source dataField
  shape.checkEnd .inPlace source
  return ⟨code, message, data⟩

/-- The record of an error. -/
def toJson (e : RpcError) : Json :=
  .ofFields [("code", some e.code.toJson), ("message", some (.string e.message)), ("data", e.data)]

end RpcError
end WalletSession
