/-
**The far edge of a dragged window.**

A coordinate that is dragged is shifted twice: when the move is planned, by what the bounds make of the
requested length, and when it is released, by what the client commits instead of the allowed length. In
exact numbers the allowed length cancels out, and the far edge stays where the request puts it, whatever
the bounds are. But each shift stops at the ends of the coordinate range. What the planned coordinate
exceeds the range by is lost, and the released coordinate is off by just as much:

* `Coordinate.clamp_clamp`: stopping twice is stopping once, less what the first number exceeds the range
  by;
* `Target.far_edge_stays`: where a parked move ends, and that it keeps the far edge exactly if the planned
  coordinate is one;
* `Target.far_edge_lost`: a window near the left end of the range, which ends too far to the right.
-/

import WindowShell.Proofs.LastMove

namespace WindowShell

namespace Coordinate

/-- How far a number lies beyond the coordinate range; it is negative below the range. -/
def excess (value : Int) : Int := value - (Int32.ofIntClamp value).toInt

theorem toInt_clamp (value : Int) :
    (Int32.ofIntClamp value).toInt = max (-2147483648) (min value 2147483647) := by
  unfold Int32.ofIntClamp
  split
  · next low =>
    split
    · next high =>
      have low : -2147483648 ≤ value := low
      have high : value ≤ 2147483647 := high
      rw [Int32.toInt_ofIntLE]
      omega
    · next high =>
      have high : ¬ value ≤ 2147483647 := high
      show (2147483647 : Int) = _
      omega
  · next low =>
    have low : ¬ -2147483648 ≤ value := low
    show (-2147483648 : Int) = _
    omega

theorem excess_eq_zero_iff {value : Int} : excess value = 0 ↔ Fits value := by
  unfold excess Fits
  rw [toInt_clamp]
  omega

/-- **Stopping twice is stopping once**, less what the first number exceeds the range by. -/
theorem clamp_clamp (value change : Int) :
    Int32.ofIntClamp ((Int32.ofIntClamp value).toInt + change) =
      Int32.ofIntClamp (value + change - excess value) := by
  unfold excess
  congr 1
  omega

/-- **Where one coordinate of a parked move ends**, when it is asked for with a length, of which the
bounds allow another, and the client commits a length of its own. -/
structure Anchored (start wished : Int32) (requested allowed : UInt32) (committed final : Int32) :
    Prop where
  /-- A coordinate that is not dragged rests. -/
  rests : wished = start → final = start
  /-- A dragged one keeps the far edge, less what the planned coordinate exceeds the range by. -/
  ends : wished ≠ start →
    final = Int32.ofIntClamp (wished.toInt + requested.toNat - max committed.toInt 0 -
      excess (wished.toInt + requested.toNat - allowed.toNat))
  /-- Where the far edge can be kept at all, it is kept exactly if the planned coordinate is one. -/
  exact_iff : wished ≠ start → Fits (wished.toInt + requested.toNat - max committed.toInt 0) →
    (final.toInt = wished.toInt + requested.toNat - max committed.toInt 0 ↔
      Fits (wished.toInt + requested.toNat - allowed.toNat))

/-- A number less an excess stops at itself only if there is no excess. -/
theorem clamp_sub_excess_iff {planned final : Int} (fits : Fits final)
    (near : planned - final < 4294967296) (close : final - planned < 4294967296) :
    (Int32.ofIntClamp (final - excess planned)).toInt = final ↔ Fits planned := by
  rw [← excess_eq_zero_iff, toInt_clamp, excess, toInt_clamp]
  unfold Fits at fits
  omega

/-- Where a parked move settles, it is anchored. -/
theorem Settles.anchored {start wished : Int32} {requested allowed : UInt32} {committed final : Int32}
    (settles : Settles False start wished requested allowed committed final) :
    Anchored start wished requested allowed committed final := by
  have ends : wished ≠ start →
      final = Int32.ofIntClamp (wished.toInt + requested.toNat - max committed.toInt 0 -
        excess (wished.toInt + requested.toNat - allowed.toNat)) := by
    intro differ
    rw [settles.released differ not_false, Int.add_sub_assoc, clamp_clamp]
    congr 1
    omega
  refine ⟨settles.rests, ends, fun differ fits => ?_⟩
  rw [ends differ]
  -- a length is less than the range is wide, so no excess leads from one of its ends to the other
  have allowed := allowed.toNat_lt
  have committed := Int32.toInt_lt committed
  exact clamp_sub_excess_iff fits (by omega) (by omega)

end Coordinate

namespace Target

/-- **The far edge stays where it can.** On an axis that is not dragged the released position is the
present one. On a dragged axis it is what the request and the committed length give, less what the
planned coordinate exceeds the coordinate range by, and stopped at the ends of the range; so if the exact
value is a coordinate, the position is that value exactly if the planned coordinate stays within the
range, whatever length the bounds allow. A negative committed length counts as none. -/
theorem far_edge_stays (current wished : Point) (requested allowed : Extent) (committed : Size) :
    let final := (plan current wished requested allowed).positionFor current committed
    Coordinate.Anchored current.x wished.x requested.width allowed.width committed.width final.x ∧
      Coordinate.Anchored current.y wished.y requested.height allowed.height committed.height
        final.y := by
  intro final
  obtain ⟨horizontal, vertical⟩ :=
    positionFor_settles current wished requested allowed committed not_false
  exact ⟨horizontal.anchored, vertical.anchored⟩

/-- **The far edge is lost at the border.** The left edge is dragged to a place near the left end of the
coordinate range, and the bounds add so much that the planned coordinate stops there. A client that then
commits less than the bounds allow has room for its far edge, and yet it does not keep it. -/
theorem far_edge_lost :
    ¬ ∀ (current wished : Point) (requested allowed : Extent) (committed : Size),
      0 ≤ committed.width.toInt → 0 ≤ committed.height.toInt → wished.x ≠ current.x →
      Coordinate.Fits
        (wished.x.toInt + requested.width.toNat - committed.width.toInt) →
      ((plan current wished requested allowed).positionFor current committed).x.toInt =
        wished.x.toInt + requested.width.toNat - committed.width.toInt := by
  intro kept
  have edge := kept {} { x := -2147483600 } { width := 100 } { width := 300 } { width := 50 }
    (by decide) (by decide) (by decide) ⟨by decide, by decide⟩
  exact absurd edge (by decide)

end Target

end WindowShell
