import WalletSession.Caveat.Removal

set_option autoImplicit false

/-! # Command lines

The commands of `caip25` and how they are read from the words of a command line: words with two hyphens are
options, a word of two hyphens ends the options, and all else are positional arguments. -/

namespace WalletSession

/-- What the program is asked to do; a path of one hyphen stands for the standard input. -/
inductive Command where
  | parse (scope : String)
  | process (request : String) (strict : Bool) (root : Option String)
  | scopedProperties (request : String)
  | validatePermission (permission : String)
  | mutateCaveat (kind : RemovalKind) (target : String) (caveat : String)
  | showVersion
  | showHelp
deriving DecidableEq, Repr

namespace Command

/-- The path that stands for the standard input. -/
def standardInput : String := "-"

/-! ## Words -/

/-- The options that a command takes, and how many positional arguments. -/
structure Usage where
  flags : List String := []
  options : List String := []
  positionals : Nat

/-- What was given on the command line. -/
structure Given where
  flags : List String := []
  options : List (String × String) := []
  positionals : List String := []

/-- Why reading stops before the end. -/
inductive Stop where
  | badUsage
  | help
deriving DecidableEq, Repr

/-- A word of an option: its name, and the value behind an equals sign. -/
def longOption? (word : String) : Option (String × Option String) :=
  match word.toList with
  | '-' :: '-' :: name =>
    match Text.splitFirst '=' name with
    | some (name, value) => some (String.ofList name, some (String.ofList value))
    | none => some (String.ofList name, none)
  | _ => none

/-- Whether a word begins with a hyphen and is more than that. -/
def isHyphenated (word : String) : Bool := word.toList.head? == some '-' && word != standardInput

/-- Read one more positional argument. -/
def Given.positional (usage : Usage) (g : Given) (word : String) : Except Stop Given :=
  if g.positionals.length < usage.positionals then .ok { g with positionals := g.positionals ++ [word] }
  else .error .badUsage

/-- Read one more flag. -/
def Given.flag (usage : Usage) (g : Given) (name : String) : Except Stop Given :=
  if usage.flags.contains name && !g.flags.contains name then .ok { g with flags := g.flags ++ [name] }
  else .error .badUsage

/-- Read one more option with its value. -/
def Given.option (usage : Usage) (g : Given) (name value : String) : Except Stop Given :=
  if usage.options.contains name && (g.options.lookup name).isNone && !value.isEmpty then
    .ok { g with options := g.options ++ [(name, value)] }
  else .error .badUsage

/-- Read the words of a command. -/
def readWords (usage : Usage) (g : Given) : List String → Except Stop Given
  | [] => .ok g
  | word :: rest =>
    if word = "--" then rest.foldlM (Given.positional usage) g
    else
      match longOption? word with
      | some (name, some value) => do readWords usage (← g.option usage name value) rest
      | some (name, none) =>
        if name = "help" then .error .help
        else if usage.options.contains name then
          match rest with
          | value :: rest =>
            if isHyphenated value then .error .badUsage
            else do readWords usage (← g.option usage name value) rest
          | [] => .error .badUsage
        else do readWords usage (← g.flag usage name) rest
      | none =>
        if isHyphenated word then .error (if word.toList[1]? = some 'h' then .help else .badUsage)
        else do readWords usage (← g.positional usage word) rest

/-! ## Commands -/

/-- A path that was given, or the standard input. -/
def pathOr (given : Option String) : Except Stop String :=
  match given with
  | none => .ok standardInput
  | some path => if path.isEmpty then .error .badUsage else .ok path

/-- A kind of removal by its name. -/
def kind? (name : String) : Except Stop RemovalKind :=
  match RemovalKind.names.lookup name with
  | some kind => .ok kind
  | none => .error .badUsage

/-- The option that fails on required scopes that are not supported. -/
def strictFlag : String := "assert-supported"

/-- The option that says where settings are. -/
def rootOption : String := "root"

/-- Read a command by its name. -/
def ofName (name : String) (words : List String) : Except Stop Command :=
  if name = "parse" || name = "p" then do
    match (← readWords { positionals := 1 } {} words).positionals with
    | [scope] => return .parse scope
    | _ => .error .badUsage
  else if name = "process" then do
    let g ← readWords { flags := [strictFlag], options := [rootOption], positionals := 1 } {} words
    let request ← pathOr g.positionals.head?
    return .process request (g.flags.contains strictFlag) (g.options.lookup rootOption)
  else if name = "scoped-properties" || name = "sp" then do
    let g ← readWords { positionals := 1 } {} words
    return .scopedProperties (← pathOr g.positionals.head?)
  else if name = "validate-permission" then do
    let g ← readWords { positionals := 1 } {} words
    return .validatePermission (← pathOr g.positionals.head?)
  else if name = "mutate-caveat" then do
    match (← readWords { positionals := 3 } {} words).positionals with
    | kind :: target :: rest => return .mutateCaveat (← kind? kind) target (← pathOr rest.head?)
    | _ => .error .badUsage
  else if name = "help" then .error .help
  else .error .badUsage

/-- The command of a whole command line, or nothing if it is not used rightly. -/
def ofWords? : List String → Option Command
  | [] => none
  | word :: rest =>
    if word = "--version" || word.startsWith "-V" then some .showVersion
    else if word = "--help" || word.startsWith "-h" then some .showHelp
    else
      match ofName word rest with
      | .ok c => some c
      | .error .help => some .showHelp
      | .error .badUsage => none

end Command
end WalletSession
