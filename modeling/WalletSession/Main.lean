import WalletSession.Command.Run
import WalletSession.Web.HttpAddress

set_option autoImplicit false

/-! # The program caip25

Gives the commands the files, the environment and the standard input of the process, and the URLs of the WHATWG
standard. -/

open WalletSession

/-- The text of some bytes. -/
def contentOfBytes (bytes : ByteArray) : FileContent :=
  match String.fromUTF8? bytes with
  | some text => .text text
  | none => .notText

/-- What is found under a path of the file system. -/
def readPath (path : String) : IO FileContent := do
  try
    return contentOfBytes (← IO.FS.readBinFile path)
  catch
    | .noFileOrDirectory .. => return .unreachable "No such file or directory (os error 2)"
    | .inappropriateType _ 21 _ => return .directory
    | e => return .unreachable (toString e)

/-- The variables in the text that the system keeps of a process's environment. -/
def variablesOfText (text : String) : List (String × String) :=
  (Text.splitAll '\x00' text.toList).filterMap fun entry =>
    (Text.splitFirst '=' entry).map fun parts => (String.ofList parts.1, String.ofList parts.2)

/-- The environment variables of the process. -/
def processVariables : IO (List (String × String)) := do
  match ← readPath "/proc/self/environ" with
  | .text text => return variablesOfText text
  | _ => return []

/-- All that is left of a stream. -/
partial def readAll (input : IO.FS.Stream) (read : ByteArray) : IO ByteArray := do
  let more ← input.read 65536
  if more.isEmpty then return read else readAll input (read ++ more)

/-- Run a command line. -/
def main (words : List String) : IO UInt32 := do
  let surroundings : Surroundings IO := {
    workingDirectory := (← IO.currentDir).toString
    environment := ← processVariables
    contentOf := readPath
    readInput := do return contentOfBytes (← readAll (← IO.getStdin) .empty) }
  let outcome ← Command.main Web.isHttpAddress surroundings words
  (← IO.getStdout).putStr outcome.output
  (← IO.getStderr).putStr outcome.errors
  return outcome.exitCode.toUInt32
