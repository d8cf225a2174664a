/-
**Quoted texts of TOML.**

A text stands between double quotes, where a backslash starts an escape, or between single quotes,
where every character stands for itself. Tripled quotes let a text run over several lines: a line end
right after the opening is dropped, each other one counts as a line feed, and up to two quotes may
stand inside or directly before the closing ones.
-/

import WindowShell.Text.Numeral
import WindowShell.Toml.Spacing

namespace WindowShell.Toml

/-- The character with a code, if there is one. -/
def charOfCode? (code : Nat) : Option Char :=
  if code.isValidChar then some (Char.ofNat code) else none

/-- A number of hexadecimal digits that give the code of a character. -/
def charCode (count : Nat) : Reader Char := do
  let digits ← (Reader.satisfying (Numeral.isDigit 16)).times count
  match (Numeral.read? 16 digits).bind charOfCode? with
  | some c => return c
  | none => failure

/-- An escape: a backslash and what it stands for. -/
def escape : Reader Char := do
  Reader.literal ['\\']
  match ← Reader.satisfying fun _ => true with
  | 'b' => return '\x08'
  | 't' => return '\t'
  | 'n' => return '\n'
  | 'f' => return '\x0c'
  | 'r' => return '\r'
  | '"' => return '"'
  | '\\' => return '\\'
  | 'u' => charCode 4
  | 'U' => charCode 8
  | _ => failure

/-- A character of a text in double quotes. -/
def basicChar : Reader Char :=
  Reader.satisfying fun c => isPlain c && c ≠ '"' && c ≠ '\\'

/-- A character of a text in single quotes. -/
def literalChar : Reader Char := Reader.satisfying fun c => isPlain c && c ≠ '\''

/-- A text in double quotes on one line. -/
def basicText : Reader (List Char) := do
  Reader.literal ['"']
  let content ← (basicChar <|> escape).many
  Reader.literal ['"']
  return content

/-- A text in single quotes on one line. -/
def literalText : Reader (List Char) := do
  Reader.literal ['\'']
  let content ← literalChar.many
  Reader.literal ['\'']
  return content

/-- One or two quotes that do not close a text. -/
def looseQuotes (quote : Char) : Reader (List Char) := do
  let run ← Reader.spanning (· = quote)
  Reader.require (run.length = 1 || run.length = 2)
  return run

/-- The closing quotes of a text over several lines, with the quotes before them that belong to the
text. -/
def closingQuotes (quote : Char) : Reader (List Char) := do
  let run ← Reader.spanning (· = quote)
  Reader.require (3 ≤ run.length && run.length ≤ 5)
  return run.drop 3

/-- A backslash at the end of a line joins it to the next text. -/
def joinedLines : Reader Unit := do
  Reader.literal ['\\']
  gap
  lineEnd
  let _ ← ((do let _ ← Reader.satisfying isGap) <|> lineEnd).many

/-- A part of a text in tripled double quotes. -/
def basicPart : Reader (List Char) :=
  (do return [← basicChar]) <|> (do joinedLines; return []) <|> (do return [← escape]) <|>
    (do lineEnd; return ['\n']) <|> looseQuotes '"'

/-- A part of a text in tripled single quotes. -/
def literalPart : Reader (List Char) :=
  (do return [← literalChar]) <|> (do lineEnd; return ['\n']) <|> looseQuotes '\''

/-- A text between tripled quotes. -/
def tripled (quote : Char) (part : Reader (List Char)) : Reader (List Char) := do
  Reader.literal [quote, quote, quote]
  let _ ← lineEnd.attempt
  let parts ← part.many
  return parts.flatten ++ (← closingQuotes quote)

/-- Any quoted text. -/
def quoted : Reader (List Char) :=
  tripled '"' basicPart <|> basicText <|> tripled '\'' literalPart <|> literalText

/-- A character of a key without quotes. -/
def isBare (c : Char) : Bool :=
  ('a' ≤ c && c ≤ 'z') || ('A' ≤ c && c ≤ 'Z') || ('0' ≤ c && c ≤ '9') || c = '_' || c = '-'

/-- One part of a key. -/
def keyPart : Reader String := do
  return String.ofList (← (Reader.satisfying isBare).oneOrMore <|> basicText <|> literalText)

/-- The greatest depth to which tables and values nest. -/
def depthLimit : Nat := 79

/-- A key: parts with points between, and blanks around each part. -/
def key : Reader (List String) := do
  let part : Reader String := do
    gap
    let name ← keyPart
    gap
    return name
  let first ← part
  let rest ← Reader.many do
    Reader.literal ['.']
    part
  Reader.require (rest.length < depthLimit)
  return first :: rest

end WindowShell.Toml
