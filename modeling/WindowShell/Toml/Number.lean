/-
**Numbers of TOML.**

An integer is written in decimal with a sign, or in a base given by its prefix without one; single
underscores may stand between digits, and its value fits 64 bits. A number with a fraction or an
exponent is kept as it is written; one that is too large to be a floating-point number is refused.
-/

import WindowShell.Text.Numeral
import WindowShell.Toml.Reader
import WindowShell.Value

namespace WindowShell.Toml

/-- Digits of a base, with single underscores between. -/
def digitRun (base : Nat) : Reader (List Char) := do
  let first ← Reader.satisfying (Numeral.isDigit base)
  let rest ← Reader.many do
    let _ ← (Reader.literal ['_']).attempt
    Reader.satisfying (Numeral.isDigit base)
  return first :: rest

/-- Whether digits are a decimal number without leading zeros. -/
def isDecimal (digits : List Char) : Bool := digits.length = 1 || digits.head? ≠ some '0'

/-- The sign of a number: whether it is negative. -/
def sign : Reader Bool :=
  (do Reader.literal ['-']; return true) <|> (do Reader.literal ['+']; return false) <|>
    return false

/-- The integer with a sign and a magnitude, if it fits 64 bits. -/
def int64? (negative : Bool) (magnitude : Nat) : Option Int :=
  let value : Int := if negative then -magnitude else magnitude
  if -9223372036854775808 ≤ value ∧ value ≤ 9223372036854775807 then some value else none

/-- The digits of a base that follow its prefix. -/
def prefixed (letter : Char) (base : Nat) : Reader (List Char × Nat) := do
  Reader.literal ['0', letter]
  return (← digitRun base, base)

/-- The value of digits as a reading step. -/
def integerOf (negative : Bool) (base : Nat) (digits : List Char) : Reader Value :=
  match (Numeral.read? base digits).bind (int64? negative) with
  | some value => return .int value
  | none => failure

/-- An integer with a prefix for its base. -/
def prefixedInteger : Reader Value := do
  let (digits, base) ← prefixed 'x' 16 <|> prefixed 'o' 8 <|> prefixed 'b' 2
  integerOf false base digits

/-- A point and the digits behind it. -/
def fraction : Reader (List Char) := do
  Reader.literal ['.']
  digitRun 10

/-- An exponent: whether it is negative, and its digits. -/
def exponent : Reader (Bool × List Char) := do
  let _ ← Reader.satisfying fun c => c = 'e' || c = 'E'
  return (← sign, ← digitRun 10)

/-- Whether `mantissa · 10 ^ scale` is too large for a floating-point number of 64 bits. The least such
number lies half a step above the largest one. -/
def isHuge (mantissa : Nat) (scale : Int) : Bool :=
  let places := scale + (Nat.toDigits 10 mantissa).length
  if mantissa = 0 || places ≤ 308 then false
  else if 310 ≤ places then true
  else
    (Nat.pow 2 1024 - Nat.pow 2 970) * Nat.pow 10 (-scale).toNat ≤ mantissa * Nat.pow 10 scale.toNat

/-- Whether a number without sign is too large, given its digits before and behind the point and its
exponent. -/
def isHugeWritten (whole behind : List Char) (power : Option (Bool × List Char)) : Bool :=
  let mantissa := (Numeral.read? 10 (whole ++ behind)).getD 0
  let size : Nat := (power.bind fun power => Numeral.read? 10 power.2).getD 0
  let scale : Int := if power.any Prod.fst then -size else size
  isHuge mantissa (scale - behind.length)

/-- A decimal number: an integer, unless a fraction or an exponent follows. -/
def decimal : Reader Value := do
  let start ← get
  let negative ← sign
  let whole ← digitRun 10
  Reader.require (isDecimal whole)
  let behind ← fraction.attempt
  let power ← exponent.attempt
  if behind.isNone && power.isNone then integerOf negative 10 whole
  else
    Reader.require (negative || !isHugeWritten whole (behind.getD []) power)
    let rest ← get
    return .float (String.ofList (start.take (start.length - rest.length)))

/-- Infinity, or what is not a number, with a sign. -/
def special : Reader Value := do
  let negative ← sign
  let name ← (do Reader.literal "inf".toList; return "inf") <|>
    (do Reader.literal "nan".toList; return "nan")
  return .float (if negative then "-" ++ name else name)

/-- Any number. -/
def number : Reader Value := prefixedInteger <|> decimal <|> special

end WindowShell.Toml
