import WalletSession.Report
import WalletSession.Settings.Layer

set_option autoImplicit false

/-! # Settings that cannot be used

What can be wrong with a file of settings or with a value given for a setting, and how it is reported. -/

namespace WalletSession

/-- What is wrong with a value for a setting. -/
inductive ValueProblem where
  | selection (problem : SelectionProblem)
  | notABoolean (found : SettingValue)

/-- What is wrong with a file. -/
inductive FileProblem where
  | notText
  | notToml
deriving DecidableEq, Repr

/-- Why settings cannot be used. -/
inductive SettingsFailure where
  /-- The file that is asked for is not there. -/
  | missingFile (path : String)
  | badFile (path : String) (problem : FileProblem)
  | badValue (setting : SettingName) (origin : Origin) (problem : ValueProblem)

/-- The problem in words. -/
def ValueProblem.words : ValueProblem → String
  | .selection (.unknownKeyword text) => "unknown variant: found `" ++ text ++ "`, expected ``all` or `none``"
  | .selection .neitherKeywordNorChains => "data did not match any variant of untagged enum Chains"
  | .notABoolean found => "invalid type: found " ++ found.words ++ ", expected a boolean"

/-- The problem in words. -/
def FileProblem.words : FileProblem → String
  | .notText => "stream did not contain valid UTF-8"
  | .notToml => "TOML parse error"

namespace Origin

/-- What kind of place it is. -/
def kind : Origin → String
  | .standard => "Multichain Config"
  | .file _ => "TOML file"
  | .environment => "`" ++ Layer.variablePrefix ++ "` environment variable(s)"

/-- The place in words, its kind first. -/
def words (origin : Origin) : String :=
  match origin with
  | .file path => origin.kind ++ " `" ++ path ++ "`"
  | _ => origin.kind

/-- The place in words, its kind last. -/
def placed (origin : Origin) : String :=
  match origin with
  | .file path => path ++ " " ++ origin.kind
  | _ => origin.kind

/-- How a setting is called at a place. -/
def key (origin : Origin) (setting : SettingName) : String :=
  match origin with
  | .environment => String.ofList (setting.text.toList.map Char.toUpper)
  | _ => "default." ++ setting.text

end Origin

namespace SettingsFailure

/-- The settings whose values are wrong. -/
def settings : SettingsFailure → List String
  | .badValue setting _ _ => [setting.text]
  | _ => []

/-- What kind of place a file that is not there would have been. -/
def missingFileKind : String := "TOML file provider"

/-- What is wrong, without the place. -/
def problem : SettingsFailure → String
  | .missingFile path =>
    "Config file `" ++ path ++ "` set in env var `" ++ Layer.fileVariable ++ "` does not exist"
  | .badFile _ problem => problem.words
  | .badValue _ _ problem => problem.words

/-- The place, and the setting if there is one. -/
def place : SettingsFailure → String
  | .missingFile _ => missingFileKind
  | .badFile path _ => (Origin.file path).words
  | .badValue setting origin _ => origin.words ++ ", setting `" ++ setting.text ++ "`"

/-- What would have been right, if it is worth saying. -/
def hint : SettingsFailure → String
  | .badValue setting _ _ =>
    if setting.selectsChains then " (expected \"all\", \"none\", or a list of chain ids and names)" else ""
  | _ => ""

/-- The failure in words. -/
def message (f : SettingsFailure) : String :=
  "failed to extract multichain config:\n- " ++ f.place ++ ": " ++ f.problem ++ f.hint ++ "\n"

/-- The failure as the cause of another one. -/
def cause (f : SettingsFailure) : String :=
  match f with
  | .missingFile _ => f.problem ++ " in " ++ missingFileKind
  | .badFile path _ => f.problem ++ " in " ++ (Origin.file path).placed
  | .badValue setting origin _ =>
    f.problem ++ " for key " ++ Text.quoted (origin.key setting) ++ " in " ++ origin.placed

/-- The report of a failure. -/
def report (f : SettingsFailure) : Report := ⟨f.message, [f.cause]⟩

end SettingsFailure
end WalletSession
