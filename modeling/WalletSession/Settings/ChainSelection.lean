import WalletSession.ChainName
import WalletSession.Json.Decode

set_option autoImplicit false

/-! # Chain selections

A setting can select all chains, none, or a list of chains, each given by its number or its name. -/

namespace WalletSession

/-- A set of chains. -/
inductive ChainSelection where
  | everything
  | nothing
  | chains (numbers : List ChainNumber)
deriving DecidableEq, Inhabited

/-- Why a value does not select chains. -/
inductive SelectionProblem where
  | unknownKeyword (text : String)
  | neitherKeywordNorChains
deriving DecidableEq, Repr

namespace ChainSelection

/-- Whether a chain is selected. -/
def contains : ChainSelection → ChainNumber → Bool
  | .everything, _ => true
  | .nothing, _ => false
  | .chains numbers, n => numbers.contains n

/-- The keywords. -/
def keywords : List String := ["all", "none"]

/-- The selection of a keyword. -/
def ofKeyword (text : String) : Except SelectionProblem ChainSelection :=
  if text = "all" then .ok .everything
  else if text = "none" then .ok .nothing
  else .error (.unknownKeyword text)

/-- The selection of a list of chains, each of which may have been no chain. -/
def ofChains (chains : List (Option ChainNumber)) : Except SelectionProblem ChainSelection :=
  match chains.mapM id with
  | some numbers => .ok (.chains numbers)
  | none => .error .neitherKeywordNorChains

/-- The chain of a whole number. -/
def chainOfInt? (n : Int) : Option ChainNumber := if 0 ≤ n then Numeral.word? n.toNat else none

/-! ## As JSON -/

/-- The chain that an item stands for. -/
def chainOfJson? : Json → Option ChainNumber
  | .integer n => chainOfInt? n
  | .string s => ChainName.parse? s
  | _ => none

/-- The problem of a JSON value that selects no chains. -/
def decodeError : SelectionProblem → Json.DecodeError
  | .unknownKeyword text => .unknownVariant text keywords
  | .neitherKeywordNorChains => .noReading "Chains"

/-- A selection from a keyword or a list. -/
def decode : Json.Decoder ChainSelection
  | .string s => (ofKeyword s).mapError decodeError
  | .array items => (ofChains (items.map chainOfJson?)).mapError decodeError
  | _ => .error (decodeError .neitherKeywordNorChains)

/-- A chain by its name, or by its number if it has none. -/
def chainToJson (n : ChainNumber) : Json :=
  match ChainName.name? n with
  | some name => .string name
  | none => .integer n.toNat

/-- A selection as a keyword or a list. -/
def toJson : ChainSelection → Json
  | .everything => .string "all"
  | .nothing => .string "none"
  | .chains numbers => .array (numbers.map chainToJson)

end ChainSelection
end WalletSession
