/-
**Texts that cannot be read.**

Reading something from a TOML text fails in one of two ways: the text is no TOML document, or the
document does not describe what was asked for.
-/

import WindowShell.Toml.Document

namespace WindowShell.Toml

/-- Why nothing can be read from a text. -/
inductive ReadError
  /-- The text is no TOML document. -/
  | malformed
  /-- The document describes something else. -/
  | unsuitable
deriving DecidableEq, Repr

/-- What the fields of a document describe, if they describe it. -/
def readAs {α : Type} (describe? : List (String × Value) → Option α) (text : String) :
    Except ReadError α :=
  match read? text with
  | none => .error .malformed
  | some fields =>
    match describe? fields with
    | none => .error .unsuitable
    | some described => .ok described

end WindowShell.Toml
