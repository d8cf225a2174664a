/-
**Tables of a TOML document.**

The keys and headers of a document build one tree of tables, and TOML says who may add to which table.
A table that a header names is closed to dotted keys from outside and cannot be named twice. A table
that arose only on the way to another one may still be named once. A table that arose from a dotted
key may be extended by dotted keys alone.
-/

import WindowShell.Value

namespace WindowShell.Toml

/-- How a table came into being. -/
inductive Origin
  /-- A header named it, or it is the root or an inline table. -/
  | named
  /-- It lay on the way to a table that a header named. -/
  | passed
  /-- A dotted key made it. -/
  | dotted
deriving DecidableEq, Repr

/-- An entry of a table. -/
inductive Node
  /-- A finished value. -/
  | leaf (value : Value)
  /-- A table that may still grow. -/
  | table (origin : Origin) (entries : List (String × Node))
  /-- An array of tables, to which headers add. -/
  | tables (elements : List (List (String × Node)))

/-- The entries of a table, in order. -/
abbrev Entries := List (String × Node)

namespace Entries

/-- Replaces the entry of a key, or adds it at the end. -/
def put (name : String) (node : Node) : Entries → Entries
  | [] => [(name, node)]
  | entry :: rest => if entry.1 = name then (name, node) :: rest else entry :: put name node rest

/-- Changes the table at the end of a path. Missing tables on the way arise with the given origin. A
path goes on through the last table of an array, never through a value, and a path of a dotted key
never through a table that was named. -/
def changeAt (origin : Origin) (change : Origin → Entries → Option Entries) :
    List String → Origin → Entries → Option Entries
  | [], here, entries => change here entries
  | name :: path, _, entries =>
    match entries.lookup name with
    | none => do
      let grown ← changeAt origin change path origin []
      return put name (.table origin grown) entries
    | some (.table found children) =>
      if origin = .dotted ∧ found = .named then none
      else do
        let grown ← changeAt origin change path found children
        return put name (.table found grown) entries
    | some (.tables elements) => do
      let last ← elements.getLast?
      let grown ← changeAt origin change path .named last
      return put name (.tables (elements.dropLast ++ [grown])) entries
    | some (.leaf _) => none

/-- Adds a value under a key. A table that arose from dotted keys takes only dotted keys, any other
table only simple ones, and no key occurs twice. -/
def assign (entries : Entries) (path : List String) (value : Value) : Option Entries := do
  let name ← path.getLast?
  let above := path.dropLast
  changeAt .dotted
    (fun here entries =>
      if (here = .dotted ↔ above = []) ∨ (entries.lookup name).isSome then none
      else some (entries ++ [(name, .leaf value)]))
    above .named entries

/-- Adds several values. -/
def assignAll (entries : Entries) (assignments : List (List String × Value)) : Option Entries :=
  assignments.foldlM (fun entries assignment => entries.assign assignment.1 assignment.2) entries

/-- Adds the table that a header names, with its values. Such a table may have been passed on the way
to another one, but not more. -/
def open? (entries : Entries) (path : List String) (content : List (List String × Value)) :
    Option Entries := do
  let name ← path.getLast?
  changeAt .passed
    (fun _ entries =>
      match entries.lookup name with
      | none => do return put name (.table .named (← assignAll [] content)) entries
      | some (.table .passed found) => do
        return put name (.table .named (← assignAll found content)) entries
      | some _ => none)
    path.dropLast .named entries

/-- Adds a table to the array that a header names, with its values. -/
def append? (entries : Entries) (path : List String) (content : List (List String × Value)) :
    Option Entries := do
  let name ← path.getLast?
  changeAt .passed
    (fun _ entries =>
      match entries.lookup name with
      | none => do return put name (.tables [← assignAll [] content]) entries
      | some (.tables elements) => do
        return put name (.tables (elements ++ [← assignAll [] content])) entries
      | some _ => none)
    path.dropLast .named entries

end Entries

mutual

/-- The value of an entry. -/
def Node.toValue : Node → Value
  | .leaf value => value
  | .table _ entries => .record (fieldsOf entries)
  | .tables elements => .list (recordsOf elements)

/-- The values of the entries of a table. -/
def fieldsOf : List (String × Node) → List (String × Value)
  | [] => []
  | (name, node) :: rest => (name, node.toValue) :: fieldsOf rest

/-- The values of the tables of an array. -/
def recordsOf : List (List (String × Node)) → List Value
  | [] => []
  | entries :: rest => .record (fieldsOf entries) :: recordsOf rest

end

end WindowShell.Toml
