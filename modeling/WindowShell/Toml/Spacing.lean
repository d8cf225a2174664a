/-
**Blanks, line ends and comments in TOML.**
-/

import WindowShell.Toml.Reader

namespace WindowShell.Toml

/-- A space or a tab. -/
def isGap (c : Char) : Bool := c = ' ' || c = '\t'

/-- A character that stands for itself in all kinds of text: a tab, or anything visible but the
delete character. -/
def isPlain (c : Char) : Bool := c = '\t' || (' ' ≤ c && c ≠ '\x7f')

/-- Spaces and tabs, if any. -/
def gap : Reader Unit := do let _ ← Reader.spanning isGap

/-- A line feed, alone or after a carriage return. -/
def lineEnd : Reader Unit := Reader.literal ['\n'] <|> Reader.literal ['\r', '\n']

/-- A comment, up to the end of its line. -/
def comment : Reader Unit := do
  Reader.literal ['#']
  let _ ← Reader.spanning isPlain

/-- Blanks, line ends and comments, if any. -/
def spread : Reader Unit := do
  let _ ← Reader.many ((do let _ ← Reader.satisfying isGap) <|> lineEnd <|> comment)

/-- What may follow on a line after its content: blanks, a comment, and the end of the line. -/
def trailing : Reader Unit := do
  gap
  let _ ← comment.attempt
  lineEnd <|> Reader.ended

end WindowShell.Toml
