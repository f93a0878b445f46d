import WalletSession.Json.Printer
import WalletSession.Text.Quoted

set_option autoImplicit false

/-! # Values of the wrong shape

Why a JSON value does not stand for a value of a type, and how that is put into words. -/

namespace WalletSession
namespace Json

/-- What kind of value was found. -/
inductive Found where
  | null
  | bool (value : Bool)
  | integer (value : Int)
  | double (value : Float)
  | string (value : String)
  | sequence
  | map

/-- The kind of a value. -/
def found : Json → Found
  | .null => .null
  | .bool b => .bool b
  | .integer n => .integer n
  | .double x => .double x
  | .string s => .string s
  | .array _ => .sequence
  | .object _ => .map

/-- What was expected instead. -/
inductive Expected where
  | string
  | sequence
  | map
  | boolean
  | byte
  | signedWord
  | unit
  /-- A record type, by name. -/
  | record (type : String)
  /-- A record with this many fields. -/
  | recordOf (type : String) (count : Nat)
  | fewerElements
  | elements (count : Nat)
  /-- One of several names, alone or as the only key of an object. -/
  | choice
  | singleKey
  /-- A value whose tag and content are two fields. -/
  | tagged (type : String)
  /-- A tag that takes no content. -/
  | bareTag (type : String) (tag : String)

/-- Why a value does not stand for a value of a type. -/
inductive DecodeError where
  | invalidType (found : Found) (expected : Expected)
  | invalidValue (found : Found) (expected : Expected)
  | invalidLength (length : Nat) (expected : Expected)
  | missingField (name : String)
  | unknownField (name : String) (known : List String)
  | unknownVariant (name : String) (known : List String)
  /-- No reading of a value that may take several forms succeeded. -/
  | noReading (type : String)

/-! ## In words -/

/-- The kind in words. -/
def Found.words : Found → String
  | .null => "null"
  | .bool b => "boolean `" ++ (if b then "true" else "false") ++ "`"
  | .integer n => "integer `" ++ Numeral.signed n ++ "`"
  | .double x => "floating point `" ++ Decimal.text numberLayout x ++ "`"
  | .string s => "string " ++ Text.quoted s
  | .sequence => "sequence"
  | .map => "map"

/-- The expectation in words. -/
def Expected.words : Expected → String
  | .string => "a string"
  | .sequence => "a sequence"
  | .map => "a map"
  | .boolean => "a boolean"
  | .byte => "u8"
  | .signedWord => "i64"
  | .unit => "unit"
  | .record type => "struct " ++ type
  | .recordOf type 1 => "struct " ++ type ++ " with 1 element"
  | .recordOf type count => "struct " ++ type ++ " with " ++ Numeral.decimal count ++ " elements"
  | .fewerElements => "fewer elements in array"
  | .elements 1 => "1 element in sequence"
  | .elements count => Numeral.decimal count ++ " elements in sequence"
  | .choice => "string or map"
  | .singleKey => "map with a single key"
  | .tagged type => "adjacently tagged enum " ++ type
  | .bareTag type tag => "unit variant " ++ type ++ "::" ++ tag

/-- A name between backticks. -/
def ticked (name : String) : String := "`" ++ name ++ "`"

/-- The names that would have been accepted; `kind` is said when there is none. -/
def alternatives (kind : String) : List String → String
  | [] => "there are no " ++ kind
  | [a] => "expected " ++ ticked a
  | [a, b] => "expected " ++ ticked a ++ " or " ++ ticked b
  | names => "expected one of " ++ joined ", " (names.map ticked)

/-- The reason in words. -/
def DecodeError.message : DecodeError → String
  | .invalidType found expected => "invalid type: " ++ found.words ++ ", expected " ++ expected.words
  | .invalidValue found expected => "invalid value: " ++ found.words ++ ", expected " ++ expected.words
  | .invalidLength length expected =>
    "invalid length " ++ Numeral.decimal length ++ ", expected " ++ expected.words
  | .missingField name => "missing field " ++ ticked name
  | .unknownField name known => "unknown field " ++ ticked name ++ ", " ++ alternatives "fields" known
  | .unknownVariant name known => "unknown variant " ++ ticked name ++ ", " ++ alternatives "variants" known
  | .noReading type => "data did not match any variant of untagged enum " ++ type

end Json
end WalletSession
