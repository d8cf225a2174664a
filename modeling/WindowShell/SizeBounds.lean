/-
**Size bounds of a window.**

A client declares a least and a greatest size for its window, and every size the compositor asks for
is first brought between them. A greatest length of zero means that there is none. A client may
declare a minimum above its maximum; then the first comparison that applies decides:

* `constrainLength_within`: with consistent bounds the result lies between them;
* `constrainLength_of_within`: a length that already lies between them is kept.
-/

import WindowShell.Geometry

namespace WindowShell

/-- The sizes a client declared for its window. -/
structure SizeBounds where
  min : Extent := {}
  /-- The greatest size; a length of zero is no limit. -/
  max : Extent := {}
deriving DecidableEq, Repr

namespace SizeBounds

/-- Brings one length between its bounds. The minimum is compared first. -/
def constrainLength (requested min max : UInt32) : UInt32 :=
  if requested < min then min
  else if 0 < max ∧ max < requested then max
  else requested

/-- Brings a requested size between the bounds, each length on its own. -/
def constrain (bounds : SizeBounds) (requested : Extent) : Extent where
  width := constrainLength requested.width bounds.min.width bounds.max.width
  height := constrainLength requested.height bounds.min.height bounds.max.height

/-- A length lies between the bounds. -/
def Within (length min max : UInt32) : Prop := min ≤ length ∧ (max = 0 ∨ length ≤ max)

/-- The bounds admit some length. -/
def Consistent (min max : UInt32) : Prop := max = 0 ∨ min ≤ max

theorem constrainLength_within {requested min max : UInt32} (consistent : Consistent min max) :
    Within (constrainLength requested min max) min max := by
  unfold constrainLength Within Consistent at *
  grind

theorem constrainLength_of_within {length min max : UInt32} (within : Within length min max) :
    constrainLength length min max = length := by
  unfold constrainLength Within at *
  grind

end SizeBounds

end WindowShell
