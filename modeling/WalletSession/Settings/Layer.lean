import WalletSession.KeyMap
import WalletSession.Settings.Basic
import WalletSession.Settings.Value
import WalletSession.Settings.VariableValue
import WalletSession.Surroundings
import WalletSession.Toml.Document

set_option autoImplicit false

/-! # Layers of settings

Settings are given by layers: those that hold when nothing else is said, then a file, then environment
variables. Every setting is decided on its own, by the last layer that gives it. -/

namespace WalletSession

/-- Where a value comes from. -/
inductive Origin where
  | standard
  /-- A file, by the path it is shown by. -/
  | file (path : String)
  | environment
deriving DecidableEq, Repr

/-- The settings by name. -/
inductive SettingName where
  | supportedChainIds
  | supportableChainIds
  | dedupeSubscriptions
deriving DecidableEq, Repr

namespace SettingName

/-- The key of a setting. -/
def text : SettingName → String
  | .supportedChainIds => "supported_chain_ids"
  | .supportableChainIds => "supportable_chain_ids"
  | .dedupeSubscriptions => "dedupe_subscriptions"

/-- Whether a setting selects chains. -/
def selectsChains : SettingName → Bool
  | .dedupeSubscriptions => false
  | _ => true

end SettingName

/-- Values of settings from one place, by key. -/
structure Layer where
  origin : Origin
  values : KeyMap SettingValue

namespace Layer

/-! ## Settings as a layer -/

/-- A selection of chains as a value. -/
def ofSelection : ChainSelection → SettingValue
  | .everything => .text "all"
  | .nothing => .text "none"
  | .chains numbers => .list (numbers.map fun n =>
      match ChainName.name? n with
      | some name => .text name
      | none => .unsigned n.toNat)

/-- The layer that gives all settings. -/
def ofSettings (s : Settings) : Layer where
  origin := .standard
  values := .ofList [
    (SettingName.supportedChainIds.text, ofSelection s.supportedChainIds),
    (SettingName.supportableChainIds.text, ofSelection s.supportableChainIds),
    (SettingName.dedupeSubscriptions.text, .bool s.dedupeSubscriptions)]

/-! ## Environment variables -/

/-- What the names of the variables begin with. -/
def variablePrefix : String := "MULTICHAIN_"

/-- The variable that names the file; it gives no setting. -/
def fileVariable : String := "MULTICHAIN_CONFIG"

/-- The parts of the key that a variable gives, in lower case. -/
def variableKey? (name : String) : Option (List String) :=
  let start := Surroundings.folded variablePrefix
  let whole := Surroundings.folded (Text.trim name)
  if start.toList.isPrefixOf whole.toList then
    let key := Text.strip Text.isBlank (whole.toList.drop start.length)
    let parts := (Text.splitAll '.' key).map String.ofList
    if whole = Surroundings.folded fileVariable || parts.any (·.isEmpty) then none else some parts
  else none

/-- The value that a variable gives for a key; a key of several parts gives a table for the first. -/
def variableEntry? (given : String × String) : Option (String × SettingValue) :=
  match variableKey? given.1 with
  | some [key] => some (key, VariableValue.parse given.2)
  | some (key :: _) => some (key, .table)
  | _ => none

/-- The layer of environment variables. -/
def ofEnvironment (environment : List (String × String)) : Layer where
  origin := .environment
  values := .ofList (environment.filterMap variableEntry?)

/-! ## Deciding -/

/-- A value and where it is said to come from. -/
structure Sourced where
  value : SettingValue
  origin : Origin

/-- What a later layer makes of an earlier value: its own value counts, but a list in place of a list is still
said to come from the earlier place. -/
def latest (earlier : Option Sourced) (later : Sourced) : Sourced :=
  match earlier with
  | some e => if e.value.isList && later.value.isList then ⟨later.value, e.origin⟩ else later
  | none => later

/-- The value that the layers, from the first to the last, give for a key. -/
def decided (key : String) (layers : List Layer) : Option Sourced :=
  layers.foldl (fun earlier layer =>
    match layer.values.get? key with
    | some v => some (latest earlier ⟨v, layer.origin⟩)
    | none => earlier) none

/-- A layer that does not give a key leaves it as it was decided before. -/
theorem decided_concat_of_none {key : String} {layers : List Layer} {layer : Layer}
    (h : layer.values.get? key = none) : decided key (layers ++ [layer]) = decided key layers := by
  simp [decided, h]

/-- The last layer that gives a key gives its value. -/
theorem decided_concat_of_some {key : String} {layers : List Layer} {layer : Layer} {v : SettingValue}
    (h : layer.values.get? key = some v) :
    (decided key (layers ++ [layer])).map (·.value) = some v := by
  simp only [decided, List.foldl_append, List.foldl_cons, List.foldl_nil, h, latest]
  grind

end Layer
end WalletSession
