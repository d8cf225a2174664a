/-
**The edges of an interactive resize.**

A set of window edges is a word of 32 bits, of which four have names. Its text lists the names of the
set bits in a fixed order and then all other bits as one hexadecimal number, with bars between.
-/

import WindowShell.Text.Blank
import WindowShell.Text.Numeral

namespace WindowShell

/-- A set of edges; bits without a name are kept. -/
structure Edges where
  /-- One bit for each edge. -/
  bits : UInt32 := 0
deriving DecidableEq, Repr

namespace Edges

/-- The named edges and their bits, in the order in which they are written. -/
def named : List (List Char × UInt32) :=
  [("TOP".toList, 1), ("BOTTOM".toList, 2), ("LEFT".toList, 4), ("RIGHT".toList, 8)]

/-- The parts of the text of a set: the names of its edges, then the rest of its bits. -/
def parts (edges : Edges) : List (List Char) :=
  (named.filter fun edge => edges.bits &&& edge.2 ≠ 0).map Prod.fst ++
    if edges.bits >>> 4 = 0 then []
    else ['0' :: 'x' :: Numeral.digits 16 (edges.bits >>> 4 <<< 4).toNat]

/-- The text of a set of edges. -/
def text (edges : Edges) : String := String.ofList ([' ', '|', ' '].intercalate edges.parts)

/-- The bits of a hexadecimal number, which may start with a plus sign. -/
def hexBits? (digits : List Char) : Option UInt32 :=
  let unsigned := if digits.head? = some '+' then digits.tail else digits
  (Numeral.read? 16 unsigned).bind fun value =>
    if value < UInt32.size then some (UInt32.ofNat value) else none

/-- The bits of one part of a text: a hexadecimal number after `0x`, or exactly a name. -/
def partBits? (part : List Char) : Option UInt32 :=
  match part with
  | '0' :: 'x' :: digits => hexBits? digits
  | name => named.lookup name

/-- The set a text stands for; a blank text is the empty set. -/
def ofText? (text : String) : Option Edges :=
  if Text.trim text.toList = [] then some {}
  else
    ((text.toList.splitOn '|').mapM fun part => partBits? (Text.trim part)).map fun bits =>
      { bits := bits.foldl (· ||| ·) 0 }

end Edges

end WindowShell
