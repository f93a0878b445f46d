import WalletSession.Json.Printer
import WalletSession.Text.Split

set_option autoImplicit false

/-! # File paths

Paths are texts of names with slashes between them; a path that starts with a slash is absolute. -/

namespace WalletSession
namespace FilePath

/-- Whether a path is absolute. -/
def isAbsolute (path : String) : Bool := path.toList.head? == some '/'

/-- The names of a path, without those that stay where they are. -/
def names (path : String) : List String :=
  ((Text.splitAll '/' path.toList).map String.ofList).filter fun name => name != "" && name != "."

/-- The absolute path of some names. -/
def ofNames (names : List String) : String := "/" ++ Json.joined "/" names

/-- A path seen from a directory. -/
def join (directory path : String) : String :=
  if isAbsolute path || directory.isEmpty then path
  else if directory.toList.getLast? = some '/' then directory ++ path
  else directory ++ "/" ++ path

/-- A directory and those around it, from the inside out. -/
def ancestors (directory : String) : List String :=
  let ns := names directory
  (List.range (ns.length + 1)).map fun i => ofNames (ns.take (ns.length - i))

/-- Where a path may be found, seen from a directory and those around it. -/
def candidates (directory path : String) : List String :=
  if isAbsolute path then [path] else (ancestors directory).map fun d => join d path

/-- The names that lead from one place to another. -/
def route : (start goal : List String) → List String
  | s :: start, g :: goal =>
    if s = g then route start goal else List.replicate (start.length + 1) ".." ++ g :: goal
  | start, goal => List.replicate start.length ".." ++ goal

/-- How an absolute path is shown in a directory: by the way to it, unless that has more names than the path, the
root counted as one. -/
def shown (directory path : String) : String :=
  let way := route (names directory) (names path)
  if way.length ≤ (names path).length + 1 then Json.joined "/" way else path

end FilePath
end WalletSession
