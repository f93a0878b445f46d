import WalletSession.Text.Blank

set_option autoImplicit false

/-! # Surroundings

What a command finds around it: environment variables, the directory it works in, files, and its input. Reading
takes place in any monad, so that the commands themselves stay pure. -/

namespace WalletSession

/-- What is found under a path. -/
inductive FileContent where
  | text (content : String)
  /-- A file whose bytes are not UTF-8. -/
  | notText
  | directory
  /-- Nothing can be reached under the path; the reason is that of the operating system. -/
  | unreachable (reason : String)
deriving DecidableEq, Repr

/-- The text of a file, or why there is none. -/
def FileContent.read : FileContent → Except String String
  | .text content => .ok content
  | .notText => .error "stream did not contain valid UTF-8"
  | .directory => .error "Is a directory (os error 21)"
  | .unreachable reason => .error reason

/-- Whether there is a file under a path. -/
def FileContent.isFile : FileContent → Bool
  | .text _ | .notText => true
  | _ => false

/-- Whether there is anything under a path. -/
def FileContent.exists : FileContent → Bool
  | .unreachable _ => false
  | _ => true

/-- What a command finds around it. -/
structure Surroundings (m : Type → Type) where
  workingDirectory : String
  environment : List (String × String)
  contentOf : String → m FileContent
  readInput : m FileContent

namespace Surroundings

variable {m : Type → Type}

/-- A text with its ASCII letters in lower case. -/
def folded (s : String) : String := String.ofList (s.toList.map Char.toLower)

/-- The value of a variable, whatever the case of its name, without blanks around it. -/
def valueOf? (s : Surroundings m) (name : String) : Option String :=
  (s.environment.find? fun v => folded (Text.trim v.1) == folded name).map fun v => Text.trim v.2

end Surroundings
end WalletSession
