/-
**TOML documents.**

A document consists of assignments and headers, one to a line; a header opens a table, or adds a table
to an array, and the assignments after it belong to that table. `Toml.read?` gives the fields of a
document, or nothing if a text is none.
-/

import WindowShell.Toml.Moment
import WindowShell.Toml.Number
import WindowShell.Toml.Quoted
import WindowShell.Toml.Tree

namespace WindowShell.Toml

/-- A truth value. -/
def truth : Reader Value :=
  (do Reader.literal "true".toList; return .bool true) <|>
    (do Reader.literal "false".toList; return .bool false)

/-- A value that holds no other values. -/
def scalar : Reader Value :=
  (do return .text (String.ofList (← quoted))) <|> moment <|> number <|> truth

/-- A list of items between brackets, over as many lines as it likes. A comma may end it. -/
def arrayOf (item : Reader Value) : Reader Value := do
  Reader.literal ['[']
  spread
  let spaced : Reader Value := do
    let value ← item
    spread
    return value
  match ← spaced.attempt with
  | none =>
    Reader.literal [']']
    return .list []
  | some first =>
    let rest ← Reader.many do
      Reader.literal [',']
      spread
      spaced
    let _ ← Reader.attempt do
      Reader.literal [',']
      spread
    Reader.literal [']']
    return .list (first :: rest)

/-- A key with the value assigned to it. -/
def assignment (item : Reader Value) : Reader (List String × Value) := do
  let path ← key
  Reader.literal ['=']
  gap
  return (path, ← item)

/-- A table between braces, on one line. -/
def inlineTable (item : Reader Value) : Reader Value := do
  Reader.literal ['\x7b']
  let spaced : Reader (List String × Value) := do
    let pair ← assignment item
    gap
    return pair
  let content ← match ← spaced.attempt with
    | none =>
      gap
      pure []
    | some first =>
      let rest ← Reader.many do
        Reader.literal [',']
        spaced
      pure (first :: rest)
  Reader.literal ['\x7d']
  match Entries.assignAll [] content with
  | some entries => return .record (fieldsOf entries)
  | none => failure

/-- Any value, nested at most so deep. -/
def value : Nat → Reader Value
  | 0 => scalar
  | depth + 1 => scalar <|> arrayOf (value depth) <|> inlineTable (value depth)

/-- An assignment on a line of its own. -/
def assignmentLine : Reader (List String × Value) := do
  let pair ← assignment (value depthLimit)
  trailing
  return pair

/-- An empty line, or one with only a comment. -/
def emptyLine : Reader Unit := do
  gap
  lineEnd <|> (do
    comment
    lineEnd <|> Reader.ended)

/-- The assignments that follow one another, with empty lines between. -/
def assignments : Reader (List (List String × Value)) := do
  let _ ← emptyLine.many
  let lines ← Reader.many do
    let pair ← assignmentLine
    let _ ← emptyLine.many
    return pair
  gap
  return lines

/-- The header of a table or, between double brackets, of a table in an array. -/
def header : Reader (Bool × List String) := do
  let double ← (do Reader.literal ['[', '[']; return true) <|>
    (do Reader.literal ['[']; return false)
  let path ← key
  Reader.literal (if double then [']', ']'] else [']'])
  trailing
  return (double, path)

/-- A header with the assignments of its table. -/
structure Section where
  /-- Whether the table is added to an array. -/
  inArray : Bool
  path : List String
  content : List (List String × Value)

/-- A header and the assignments behind it. -/
def tableSection : Reader Section := do
  let (inArray, path) ← header
  return { inArray, path, content := ← assignments }

/-- A document: the assignments of the root and the sections behind them. -/
def document : Reader (List (List String × Value) × List Section) := do
  let _ ← (Reader.literal ['\ufeff']).attempt
  let root ← assignments
  let sections ← tableSection.many
  return (root, sections)

/-- The table that a section adds to. -/
def Section.addTo (entries : Entries) (addition : Section) : Option Entries :=
  if addition.inArray then entries.append? addition.path addition.content
  else entries.open? addition.path addition.content

/-- The fields of a document, if a text is one. -/
def read? (text : String) : Option (List (String × Value)) := do
  let (root, sections) ← document.whole? text.toList
  let entries ← Entries.assignAll [] root
  return fieldsOf (← sections.foldlM Section.addTo entries)

end WindowShell.Toml
