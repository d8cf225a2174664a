/-
**Points, sizes and rectangles.**

Two kinds of extent occur. What a client commits is a `Size` of signed coordinates, stored as it is
given, negative or not. What the compositor requests and what a client declares as a bound is an
`Extent` of unsigned coordinates. Positions move by differences of such lengths, and a coordinate
that would leave the 32-bit range stops at its end:

* `Coordinate.shift_toInt`: `shift` is the exact sum whenever that sum is a coordinate.
-/

namespace WindowShell

/-- A place on the desktop. -/
structure Point where
  x : Int32 := 0
  y : Int32 := 0
deriving DecidableEq, Repr

/-- A committed width and height, as the client gave them. -/
structure Size where
  width : Int32 := 0
  height : Int32 := 0
deriving DecidableEq, Repr

/-- A rectangle given by its top left corner and its size. -/
structure Rectangle where
  origin : Point := {}
  size : Size := {}
deriving DecidableEq, Repr

/-- A requested or declared width and height; zero often means "no wish". -/
structure Extent where
  width : UInt32 := 0
  height : UInt32 := 0
deriving DecidableEq, Repr

namespace Coordinate

/-- The coordinate moved forward by one length and back by another, stopping at the ends of the
coordinate range. -/
def shift (position : Int32) (forward back : Nat) : Int32 :=
  Int32.ofIntClamp (position.toInt + forward - back)

/-- A shift that stays within the coordinate range is exact. -/
theorem shift_toInt (position : Int32) (forward back : Nat)
    (low : -2147483648 ≤ position.toInt + forward - back)
    (high : position.toInt + forward - back ≤ 2147483647) :
    (shift position forward back).toInt = position.toInt + forward - back :=
  Int32.toInt_ofIntClamp low high

end Coordinate

end WindowShell
