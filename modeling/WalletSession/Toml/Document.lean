import WalletSession.Toml.Scalar

set_option autoImplicit false

/-! # TOML documents

A document is a sequence of lines: keys with values, and headers of tables. Nothing may be said twice: a key has
one value, a table one header, and a table made by keys with points is not opened again. -/

namespace WalletSession
namespace Toml

/-! ## Tables -/

/-- How a table came into being. -/
inductive TableKind where
  /-- By its own header. -/
  | declared
  /-- By a header of a table inside it. -/
  | implied
  /-- By keys with points. -/
  | dotted
deriving DecidableEq

/-- What stands under a key. -/
inductive Item where
  /-- A value, which is not added to. -/
  | value (v : SettingValue)
  | table (kind : TableKind) (entries : List (String × Item))
  /-- Tables in a list; the last one can be added to. -/
  | tables (before : Nat) (last : List (String × Item))

/-- The entries of a table. -/
abbrev Entries := List (String × Item)

/-- Put an item under a key, in place of the one that is there. -/
def setItem (key : String) (item : Item) : Entries → Entries
  | [] => [(key, item)]
  | (k, i) :: rest => if k = key then (key, item) :: rest else (k, i) :: setItem key item rest

/-- Change the table at a path; tables on the way that are not there are implied. -/
def alter : (path : List String) → (Entries → Option Entries) → Entries → Option Entries
  | [], f, es => f es
  | key :: path, f, es =>
    match es.lookup key with
    | none => (alter path f []).map fun sub => setItem key (.table .implied sub) es
    | some (.table kind sub) => (alter path f sub).map fun sub => setItem key (.table kind sub) es
    | some (.tables before last) => (alter path f last).map fun last => setItem key (.tables before last) es
    | some (.value _) => none

/-- Declare a table. -/
def declare (key : String) (es : Entries) : Option Entries :=
  match es.lookup key with
  | none => some (setItem key (.table .declared []) es)
  | some (.table .implied sub) => some (setItem key (.table .declared sub) es)
  | _ => none

/-- Begin another table of a list. -/
def declareNext (key : String) (es : Entries) : Option Entries :=
  match es.lookup key with
  | none => some (setItem key (.tables 0 []) es)
  | some (.tables before _) => some (setItem key (.tables (before + 1) []) es)
  | _ => none

/-- Give a key a value. -/
def assign : (key : List String) → SettingValue → Entries → Option Entries
  | [], _, _ => none
  | [key], v, es => if (es.lookup key).isSome then none else some (setItem key (.value v) es)
  | key :: more, v, es =>
    match es.lookup key with
    | none => (assign more v []).map fun sub => setItem key (.table .dotted sub) es
    | some (.table .declared _) => none
    | some (.table kind sub) => (assign more v sub).map fun sub => setItem key (.table kind sub) es
    | _ => none

/-- An item as the value of a setting. -/
def Item.toValue : Item → SettingValue
  | .value v => v
  | .table _ _ => .table
  | .tables before _ => .list (List.replicate (before + 1) .table)

/-! ## Values -/

mutual

/-- A value; `depth` is the number of brackets and braces that may still be opened. -/
def scanValue : (steps depth : Nat) → Scanner SettingValue
  | 0, _, _ => none
  | steps + 1, depth, cs =>
    match cs, depth with
    | '"' :: _, _ | '\'' :: _, _ => (scanString cs).map fun found => (.text found.1, found.2)
    | '[' :: rest, depth + 1 => scanItems steps depth [] (skipLines steps rest)
    | '\x7b' :: rest, depth + 1 => scanPairs steps depth [] (skipLines steps rest)
    | _, _ => scanWord cs

/-- The rest of a list, the items read so far given last first. -/
def scanItems : (steps depth : Nat) → List SettingValue → Scanner SettingValue
  | 0, _, _, _ => none
  | _ + 1, _, items, ']' :: rest => some (.list items.reverse, rest)
  | steps + 1, depth, items, cs =>
    match scanValue steps depth cs with
    | none => none
    | some (item, rest) =>
      match skipLines steps rest with
      | ',' :: rest => scanItems steps depth (item :: items) (skipLines steps rest)
      | ']' :: rest => some (.list (item :: items).reverse, rest)
      | _ => none

/-- The rest of a table in braces. -/
def scanPairs : (steps depth : Nat) → Entries → Scanner SettingValue
  | 0, _, _, _ => none
  | _ + 1, _, _, '\x7d' :: rest => some (.table, rest)
  | steps + 1, depth, es, cs =>
    match scanKey steps cs with
    | some (key, '=' :: rest) =>
      match scanValue steps depth (skipBlanks rest) with
      | none => none
      | some (v, rest) =>
        match assign key v es, skipLines steps rest with
        | some es, ',' :: rest => scanPairs steps depth es (skipLines steps rest)
        | some _, '\x7d' :: rest => some (.table, rest)
        | _, _ => none
    | _ => none

end

/-! ## Documents -/

/-- What has been read of a document, and the table that keys belong to. -/
structure Draft where
  current : List String
  entries : Entries

/-- The most brackets and braces that may be open at one time. -/
def depthLimit : Nat := 80

/-- The header of a table, behind its brackets. -/
def readHeader (closing : List Char) (declare : String → Entries → Option Entries) (d : Draft)
    (cs : List Char) : Option (Draft × List Char) := do
  let (key, rest) ← scanKey (cs.length + 1) cs
  let last ← key.getLast?
  if closing.isPrefixOf rest then
    let entries ← alter key.dropLast (declare last) d.entries
    return (⟨key, entries⟩, rest.drop closing.length)
  else none

/-- A key and its value. -/
def readPair (d : Draft) (cs : List Char) : Option (Draft × List Char) := do
  let (key, rest) ← scanKey (cs.length + 1) cs
  match rest with
  | '=' :: rest =>
    let (v, rest) ← scanValue (2 * rest.length + 2) depthLimit (skipBlanks rest)
    let entries ← alter d.current (assign key v) d.entries
    return (⟨d.current, entries⟩, rest)
  | _ => none

/-- The rest of a document, at most `lines` lines of it. -/
def readLines : (lines : Nat) → Draft → List Char → Option Entries
  | 0, _, _ => none
  | lines + 1, d, cs =>
    match skipLines cs.length cs with
    | [] => some d.entries
    | '[' :: '[' :: rest => do
      let (d, rest) ← readHeader [']', ']'] declareNext d rest
      readLines lines d (← endLine? rest)
    | '[' :: rest => do
      let (d, rest) ← readHeader [']'] declare d rest
      readLines lines d (← endLine? rest)
    | cs => do
      let (d, rest) ← readPair d cs
      readLines lines d (← endLine? rest)

/-- The text without a byte order mark at its start. -/
def withoutMark : List Char → List Char
  | '\ufeff' :: rest => rest
  | cs => cs

/-- The values of a document by key. -/
def parse? (text : String) : Option (List (String × SettingValue)) :=
  let cs := withoutMark text.toList
  (readLines (cs.length + 1) ⟨[], []⟩ cs).map fun es => es.map fun e => (e.1, e.2.toValue)

end Toml
end WalletSession
