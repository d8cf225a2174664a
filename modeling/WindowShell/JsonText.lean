/-
**Values as JSON text.**

One member to a line, two spaces deeper for each level, a space behind each colon; empty lists and
records close at once. Control characters are escaped, and all other characters stand for themselves.
-/

import WindowShell.Value

namespace WindowShell.JsonText

/-- A character inside a quoted text. -/
def character (c : Char) : List Char :=
  if c = '"' then ['\\', '"']
  else if c = '\\' then ['\\', '\\']
  else if c = '\x08' then ['\\', 'b']
  else if c = '\x0c' then ['\\', 'f']
  else if c = '\n' then ['\\', 'n']
  else if c = '\r' then ['\\', 'r']
  else if c = '\t' then ['\\', 't']
  else if c < ' ' then
    '\\' :: 'u' :: '0' :: '0' :: (c.toNat / 16).digitChar :: [(c.toNat % 16).digitChar]
  else [c]

/-- A quoted text. -/
def quote (text : String) : String :=
  String.ofList ('"' :: (text.toList.flatMap character ++ ['"']))

/-- The start of a line at some depth. -/
def line (depth : Nat) : String := String.ofList ('\n' :: List.replicate (2 * depth) ' ')

/-- Members between brackets, each on a line of its own. -/
def block (opening closing : Char) (depth : Nat) (members : List String) : String :=
  if members.isEmpty then String.ofList [opening, closing]
  else
    let lines := members.map fun member => line (depth + 1) ++ member
    opening.toString ++ String.intercalate "," lines ++ line depth ++ closing.toString

mutual

/-- A value at some depth. -/
def render (depth : Nat) : Value → String
  | .null => "null"
  | .bool value => if value then "true" else "false"
  | .int value => toString value
  | .float written => written
  | .moment written => quote written
  | .text value => quote value
  | .list items => block '[' ']' depth (renderItems (depth + 1) items)
  | .record fields => block '\x7b' '\x7d' depth (renderFields (depth + 1) fields)

/-- The items of a list. -/
def renderItems (depth : Nat) : List Value → List String
  | [] => []
  | item :: rest => render depth item :: renderItems depth rest

/-- The fields of a record. -/
def renderFields (depth : Nat) : List (String × Value) → List String
  | [] => []
  | (name, value) :: rest => (quote name ++ ": " ++ render depth value) :: renderFields depth rest

end

/-- The text of a value. -/
def ofValue (value : Value) : String := render 0 value

end WindowShell.JsonText
