import WalletSession.Json.Printer
import WalletSession.Settings.ChainSelection
import WalletSession.Text.Quoted

set_option autoImplicit false

/-! # Values of settings

A setting is given by a value from a file or from the environment. No setting takes a table, so what a table
holds is not kept. -/

namespace WalletSession

/-- A value as it is given for a setting. -/
inductive SettingValue where
  | nothing
  | bool (value : Bool)
  /-- A whole number that was read as a number with a sign. -/
  | signed (value : Int)
  /-- A whole number that was read as a number without a sign. -/
  | unsigned (value : Nat)
  | double (value : Float)
  | char (value : Char)
  | text (value : String)
  | list (items : List SettingValue)
  | table
deriving Inhabited

namespace SettingValue

/-- How doubles are shown: in place, whatever their size, and without a fraction that is zero. -/
def doubleLayout : Decimal.Layout where
  positional _ := true
  wholeFraction := false
  infinity := "inf"
  notANumber := "NaN"

/-- A character between single quotes. -/
def quotedChar (c : Char) : String :=
  String.ofList ('\'' :: (if c = '\'' then ['\\', '\''] else if c = '"' then ['"'] else Text.quotedChar c) ++ ['\''])

/-- The kind of a value in words. -/
def words : SettingValue → String
  | .nothing => "unit"
  | .bool b => "bool " ++ (if b then "true" else "false")
  | .signed n => "signed int " ++ "`" ++ Numeral.signed n ++ "`"
  | .unsigned n => "unsigned int " ++ "`" ++ Numeral.decimal n ++ "`"
  | .double x => "float " ++ "`" ++ Decimal.text doubleLayout x ++ "`"
  | .char c => "char " ++ quotedChar c
  | .text s => "string " ++ Text.quoted s
  | .list _ => "sequence"
  | .table => "map"

/-- Whether a value is a list. -/
def isList : SettingValue → Bool
  | .list _ => true
  | _ => false

/-- The chain that a value stands for. -/
def chain? : SettingValue → Option ChainNumber
  | .signed n => ChainSelection.chainOfInt? n
  | .unsigned n => ChainSelection.chainOfInt? n
  | .text s => ChainName.parse? s
  | _ => none

/-- The selection of chains that a value stands for. -/
def selection : SettingValue → Except SelectionProblem ChainSelection
  | .text s => ChainSelection.ofKeyword s
  | .list items => ChainSelection.ofChains (items.map chain?)
  | _ => .error .neitherKeywordNorChains

end SettingValue
end WalletSession
