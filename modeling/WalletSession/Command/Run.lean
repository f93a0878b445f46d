import WalletSession.Command.Arguments
import WalletSession.Json.Reader
import WalletSession.Permission.Check
import WalletSession.ScopeInfo
import WalletSession.Session.Request
import WalletSession.Settings.Load

set_option autoImplicit false

/-! # Commands

What the commands of `caip25` do: each reads a JSON text, if it needs one, and prints its result, or reports why
there is none. The program that runs them says what a URL is. -/

namespace WalletSession
namespace Command

/-! ## On values -/

/-- An error that is sent to callers, as a report. -/
def rpcReport (e : RpcError) : Report := ⟨e.text, []⟩

/-- What a wallet makes of a request. -/
def processRequest (isHttpUrl : String → Bool) (support : ChainSupport) (strict : Bool) (request : Json) :
    Except Report ProcessedRequest :=
  (ProcessedRequest.ofRequest isHttpUrl support strict request).mapError rpcReport

/-- The properties that are kept of a request. -/
def processProperties (isHttpUrl : String → Bool) (request : Json) : Except Report ScopedProperties :=
  ((SessionRequest.parse request).mapError rpcReport).map (·.properties isHttpUrl)

/-- Check that a value is a permission that stands for a session. -/
def validatePermissionValue (value : Json) : Except Report Unit := do
  let p ← (Permission.decode value).mapError fun e => ⟨"invalid permission", [e.message]⟩
  if p.parentCapability ≠ SessionPermission.targetName then
    .error ⟨"expected a `" ++ SessionPermission.targetName ++ "` permission, found `" ++ p.parentCapability ++
      "`", []⟩
  (SessionPermission.check p).mapError fun e => ⟨e.message, []⟩

/-- What a removal comes to for a caveat value. -/
def mutateCaveatValue (kind : RemovalKind) (target : String) (value : Json) : Except Report RemovalOutcome := do
  let v ← (CaveatValue.decode value).mapError fun e => ⟨"invalid caveat value", [e.message]⟩
  return v.remove kind target

/-! ## In their surroundings -/

variable {m : Type → Type} [Monad m]

/-- The value of a JSON text. -/
def parseJson (text : String) : Except Report Json :=
  (Json.parse text).mapError fun e => ⟨"invalid JSON", [e.message]⟩

/-- The JSON value in a file or in the standard input. -/
def readJson (s : Surroundings m) (path : String) : m (Except Report Json) := do
  let (content, name) ←
    if path = standardInput then do pure (← s.readInput, "stdin")
    else do pure (← s.contentOf (FilePath.join s.workingDirectory path), path)
  match content.read with
  | .error reason => return .error ⟨"failed to read " ++ name, [reason]⟩
  | .ok text => return parseJson text

/-- A JSON value as it is printed. -/
def printed (v : Json) : String := v.pretty ++ "\n"

/-- The name and version of the program. -/
def version : String := "caip25 0.3.0\n"

/-- How the program is used. -/
def help : String :=
  "Usage: caip25 <parse|process|scoped-properties|validate-permission|mutate-caveat> [ARGUMENTS]\n"

/-- What a command prints, or why it fails. -/
def run (isHttpUrl : String → Bool) (s : Surroundings m) : Command → m (Except Report String)
  | .parse scope => return .ok (printed (ScopeInfo.ofText scope).toJson)
  | .process request strict root => do
    match ← Settings.load s (root.getD ".") with
    | .error f => return .error f.report
    | .ok settings =>
      return (← readJson s request).bind fun v =>
        (processRequest isHttpUrl settings.support strict v).map fun p => printed p.toJson
  | .scopedProperties request => do
    return (← readJson s request).bind fun v => (processProperties isHttpUrl v).map fun p => printed p.toJson
  | .validatePermission permission => do
    return (← readJson s permission).bind fun v =>
      (validatePermissionValue v).map fun _ => "permission is valid\n"
  | .mutateCaveat kind target caveat => do
    return (← readJson s caveat).bind fun v => (mutateCaveatValue kind target v).map fun o => printed o.toJson
  | .showVersion => return .ok version
  | .showHelp => return .ok help

/-! ## The program -/

/-- What the program leaves behind. -/
structure Outcome where
  exitCode : Nat
  output : String
  errors : String
deriving DecidableEq, Repr

/-- What the program does with a command line. -/
def main (isHttpUrl : String → Bool) (s : Surroundings m) (words : List String) : m Outcome := do
  match ofWords? words with
  | none => return ⟨2, "", help⟩
  | some c =>
    match ← c.run isHttpUrl s with
    | .ok output => return ⟨0, output, ""⟩
    | .error r => return ⟨1, "", "Error: " ++ r.text ++ "\n"⟩

end Command
end WalletSession
