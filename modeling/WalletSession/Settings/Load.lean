import WalletSession.FilePath
import WalletSession.Settings.Failure

set_option autoImplicit false

/-! # Loading settings

`Settings.ofLayers` puts settings together from layers; `Settings.load` finds the layers. The file is the one that
a variable names, or else the one of the usual name, searched for in the working directory and those around
it. -/

namespace WalletSession
namespace Settings

/-- The usual name of the file. -/
def fileName : String := "multichain.toml"

/-! ## From layers -/

/-- The selection of chains that a setting comes to. -/
def selectionOf (setting : SettingName) (layers : List Layer) (usual : ChainSelection) :
    Except SettingsFailure ChainSelection :=
  match Layer.decided setting.text layers with
  | none => .ok usual
  | some v => v.value.selection.mapError fun p => .badValue setting v.origin (.selection p)

/-- The truth value that a setting comes to. -/
def boolOf (setting : SettingName) (layers : List Layer) (usual : Bool) : Except SettingsFailure Bool :=
  match Layer.decided setting.text layers with
  | none => .ok usual
  | some ⟨.bool b, _⟩ => .ok b
  | some v => .error (.badValue setting v.origin (.notABoolean v.value))

/-- The settings that layers come to; of several bad values, the one of the first key is reported. -/
def ofLayers (layers : List Layer) : Except SettingsFailure Settings := do
  let dedupeSubscriptions ← boolOf .dedupeSubscriptions layers standard.dedupeSubscriptions
  let supportableChainIds ← selectionOf .supportableChainIds layers standard.supportableChainIds
  let supportedChainIds ← selectionOf .supportedChainIds layers standard.supportedChainIds
  return { supportedChainIds, supportableChainIds, dedupeSubscriptions }

/-! ## From the surroundings -/

variable {m : Type → Type} [Monad m]

/-- The first file under some paths. -/
def firstFile (s : Surroundings m) : List String → m (Option (String × FileContent))
  | [] => pure none
  | path :: rest => do
    let content ← s.contentOf path
    if content.isFile then return some (path, content) else firstFile s rest

/-- The layer of a file, if there is one. -/
def fileLayer (workingDirectory : String) : Option (String × FileContent) → Except SettingsFailure (List Layer)
  | some (path, .text content) =>
    let shown := FilePath.shown workingDirectory path
    match Toml.parse? content with
    | some values => .ok [⟨.file shown, .ofList values⟩]
    | none => .error (.badFile shown .notToml)
  | some (path, .notText) => .error (.badFile (FilePath.shown workingDirectory path) .notText)
  | _ => .ok []

/-- The file of settings for a root directory. -/
def loadFile (s : Surroundings m) (root : String) : m (Except SettingsFailure (List Layer)) := do
  match s.valueOf? Layer.fileVariable with
  | some path =>
    let content ← s.contentOf (FilePath.join s.workingDirectory path)
    if path.isEmpty || !content.exists then return .error (.missingFile path)
    else return fileLayer s.workingDirectory (← firstFile s (FilePath.candidates s.workingDirectory path))
  | none =>
    let path := FilePath.join root fileName
    return fileLayer s.workingDirectory (← firstFile s (FilePath.candidates s.workingDirectory path))

/-- The settings for a root directory. -/
def load (s : Surroundings m) (root : String) : m (Except SettingsFailure Settings) := do
  match ← loadFile s root with
  | .error f => return .error f
  | .ok file => return ofLayers (.ofSettings standard :: file ++ [.ofEnvironment s.environment])

end Settings
end WalletSession
