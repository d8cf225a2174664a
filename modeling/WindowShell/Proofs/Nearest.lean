/-
**The nearest size between the bounds.**

A client declares bounds for the width and for the height of its window, and each length the compositor
asks for is brought between its own two bounds. Where these admit any length, the result is the nearest one
they admit. Where the greatest length is smaller than the least one, they admit none, and the order of the
comparisons decides: a length below the minimum goes up to it, every other length goes down to the maximum,
which is below the minimum. So nothing stays where it is, and a size that is constrained over and over goes
to and fro between the bounds:

* `constrainLength_nearest`, `eq_constrainLength_of_nearest`: the result is nearer to the request than any
  other length between the bounds;
* `constrainLength_mono`: with consistent bounds, a longer request never gives a shorter result;
* `constrainLength_of_contradictory`: what bounds make of a length if they admit none;
* `sizes_go_to_the_nearest`: so much for each axis of a size.
-/

import Mathlib.Data.Nat.Dist
import WindowShell.SizeBounds

namespace WindowShell

namespace SizeBounds

/-! ### One length -/

section Lengths

variable {requested length min max : UInt32}

/-- The result as a number. -/
theorem toNat_constrainLength (requested min max : UInt32) :
    (constrainLength requested min max).toNat =
      if requested.toNat < min.toNat then min.toNat
      else if 0 < max.toNat ∧ max.toNat < requested.toNat then max.toNat
      else requested.toNat := by
  unfold constrainLength
  simp only [UInt32.lt_iff_toNat_lt, UInt32.toNat_zero]
  split_ifs <;> rfl

/-- A length between the bounds, as a number. -/
theorem within_iff : Within length min max ↔
    min.toNat ≤ length.toNat ∧ (max.toNat = 0 ∨ length.toNat ≤ max.toNat) := by
  unfold Within
  rw [UInt32.le_iff_toNat_le, UInt32.le_iff_toNat_le, ← UInt32.toNat_inj, UInt32.toNat_zero]

/-- **No length between the bounds is nearer** to the request than the result. -/
theorem constrainLength_nearest (within : Within length min max) :
    Nat.dist (constrainLength requested min max).toNat requested.toNat ≤
      Nat.dist length.toNat requested.toNat := by
  obtain ⟨low, high⟩ := within_iff.mp within
  rw [toNat_constrainLength]
  unfold Nat.dist
  split_ifs <;> omega

/-- And no other one is as near. -/
theorem eq_constrainLength_of_nearest (within : Within length min max)
    (near : Nat.dist length.toNat requested.toNat ≤
      Nat.dist (constrainLength requested min max).toNat requested.toNat) :
    length = constrainLength requested min max := by
  obtain ⟨low, high⟩ := within_iff.mp within
  rw [← UInt32.toNat_inj]
  rw [toNat_constrainLength] at near ⊢
  unfold Nat.dist at near
  split_ifs at near ⊢ <;> omega

theorem constrainLength_constrainLength (consistent : Consistent min max) :
    constrainLength (constrainLength requested min max) min max = constrainLength requested min max :=
  constrainLength_of_within (constrainLength_within consistent)

theorem constrainLength_mono (consistent : Consistent min max) {longer : UInt32}
    (le : requested ≤ longer) : constrainLength requested min max ≤ constrainLength longer min max := by
  have order : max.toNat = 0 ∨ min.toNat ≤ max.toNat := by
    rcases consistent with rfl | below
    · exact .inl rfl
    · exact .inr (UInt32.le_iff_toNat_le.mp below)
  rw [UInt32.le_iff_toNat_le] at le ⊢
  rw [toNat_constrainLength, toNat_constrainLength]
  split_ifs <;> omega

/-- **Bounds that admit no length** send it to one of themselves: up if it is below the minimum, and down
otherwise. -/
theorem constrainLength_of_contradictory (limited : 0 < max) (contradictory : max < min) :
    constrainLength requested min max = if requested < min then min else max := by
  unfold constrainLength
  by_cases below : requested < min
  · rw [if_pos below, if_pos below]
  · have beyond : max < requested := UInt32.lt_of_lt_of_le contradictory (UInt32.not_lt.mp below)
    rw [if_neg below, if_neg below, if_pos ⟨limited, beyond⟩]

/-- They leave no length where it is. -/
theorem constrainLength_ne (limited : 0 < max) (contradictory : max < min) :
    constrainLength requested min max ≠ requested := by
  rw [constrainLength_of_contradictory limited contradictory]
  split
  · next below => exact (UInt32.ne_of_lt below).symm
  · next above => exact fun same => above (same ▸ contradictory)

/-- They send each of themselves to the other one. -/
theorem constrainLength_swings (limited : 0 < max) (contradictory : max < min) :
    constrainLength min min max = max ∧ constrainLength max min max = min := by
  constructor
  · rw [constrainLength_of_contradictory limited contradictory, if_neg (UInt32.lt_irrefl min)]
  · rw [constrainLength_of_contradictory limited contradictory, if_pos contradictory]

end Lengths

/-! ### An axis of a size -/

/-- **Bounds that admit a length of an axis** project onto what they admit. -/
structure Projects (bounds : SizeBounds) (axis : Extent → UInt32) : Prop where
  within : ∀ requested,
    Within (axis (bounds.constrain requested)) (axis bounds.min) (axis bounds.max)
  nearest : ∀ requested length, Within length (axis bounds.min) (axis bounds.max) →
    Nat.dist (axis (bounds.constrain requested)).toNat (axis requested).toNat ≤
      Nat.dist length.toNat (axis requested).toNat
  /-- No other length between the bounds is as near to the request as the result. -/
  only : ∀ requested length, Within length (axis bounds.min) (axis bounds.max) →
    Nat.dist length.toNat (axis requested).toNat ≤
      Nat.dist (axis (bounds.constrain requested)).toNat (axis requested).toNat →
    length = axis (bounds.constrain requested)
  kept : ∀ requested, Within (axis requested) (axis bounds.min) (axis bounds.max) →
    axis (bounds.constrain requested) = axis requested
  again : ∀ requested,
    axis (bounds.constrain (bounds.constrain requested)) = axis (bounds.constrain requested)
  mono : ∀ requested larger, axis requested ≤ axis larger →
    axis (bounds.constrain requested) ≤ axis (bounds.constrain larger)

/-- **Bounds that admit no length of an axis** send every length to one of themselves, and then to and
fro. -/
structure Swings (bounds : SizeBounds) (axis : Extent → UInt32) : Prop where
  bound : ∀ requested, axis (bounds.constrain requested) = axis bounds.min ∨
    axis (bounds.constrain requested) = axis bounds.max
  moved : ∀ requested, axis (bounds.constrain requested) ≠ axis requested
  again : ∀ requested,
    axis (bounds.constrain (bounds.constrain requested)) ≠ axis (bounds.constrain requested)
  returns : ∀ requested, axis (bounds.constrain (bounds.constrain (bounds.constrain requested))) =
    axis (bounds.constrain requested)

/-- **What bounds do along an axis.** -/
structure Rules (bounds : SizeBounds) (axis : Extent → UInt32) : Prop where
  /-- The other axis has no part in it. -/
  alone : ∀ (others : SizeBounds) (requested wished : Extent),
    axis others.min = axis bounds.min → axis others.max = axis bounds.max →
    axis wished = axis requested → axis (others.constrain wished) = axis (bounds.constrain requested)
  projects : Consistent (axis bounds.min) (axis bounds.max) → Projects bounds axis
  swings : 0 < axis bounds.max → axis bounds.max < axis bounds.min → Swings bounds axis

section Axes

variable {bounds : SizeBounds} {axis : Extent → UInt32}
  (acts : ∀ (bounds : SizeBounds) (requested : Extent), axis (bounds.constrain requested) =
    constrainLength (axis requested) (axis bounds.min) (axis bounds.max))

include acts

theorem projects_of_consistent (consistent : Consistent (axis bounds.min) (axis bounds.max)) :
    Projects bounds axis where
  within requested := by
    rw [acts]
    exact constrainLength_within consistent
  nearest requested length within := by
    rw [acts]
    exact constrainLength_nearest within
  only requested length within near := by
    rw [acts] at near ⊢
    exact eq_constrainLength_of_nearest within near
  kept requested within := by
    rw [acts]
    exact constrainLength_of_within within
  again requested := by
    rw [acts, acts]
    exact constrainLength_constrainLength consistent
  mono requested larger le := by
    rw [acts, acts]
    exact constrainLength_mono consistent le

theorem swings_of_contradictory (limited : 0 < axis bounds.max)
    (contradictory : axis bounds.max < axis bounds.min) : Swings bounds axis := by
  have bound : ∀ requested, axis (bounds.constrain requested) = axis bounds.min ∨
      axis (bounds.constrain requested) = axis bounds.max := by
    intro requested
    rw [acts, constrainLength_of_contradictory limited contradictory]
    split
    · exact .inl rfl
    · exact .inr rfl
  have moved : ∀ requested, axis (bounds.constrain requested) ≠ axis requested := by
    intro requested
    rw [acts]
    exact constrainLength_ne limited contradictory
  obtain ⟨down, up⟩ := constrainLength_swings limited contradictory
  refine ⟨bound, moved, fun requested => moved (bounds.constrain requested), fun requested => ?_⟩
  rw [acts, acts bounds (bounds.constrain requested)]
  rcases bound requested with least | greatest
  · rw [least, down, up]
  · rw [greatest, up, down]

theorem rules_of_acts (bounds : SizeBounds) : Rules bounds axis where
  alone others requested wished least greatest same := by rw [acts, acts, least, greatest, same]
  projects := projects_of_consistent acts
  swings := swings_of_contradictory acts

end Axes

/-- **Sizes go to the nearest one between their bounds.** For all bounds, and along each axis on its own:
if there is no maximum or it is not below the minimum, the result lies between the bounds, no length between
them is nearer to the request, nor as near; a request between them is kept, constraining twice is
constraining once, and a larger request never gives a smaller result. If there is a maximum below the
minimum, the result is always one of the two and never the request, so that a constrained size is changed
by constraining it again. -/
theorem sizes_go_to_the_nearest (bounds : SizeBounds) :
    Rules bounds Extent.width ∧ Rules bounds Extent.height :=
  ⟨rules_of_acts (fun _ _ => rfl) bounds, rules_of_acts (fun _ _ => rfl) bounds⟩

/-- A width without a maximum that is too small, and a height whose bounds contradict each other. -/
theorem sizes_go_to_the_nearest_mixedBounds :
    let bounds : SizeBounds := { min := ⟨100, 300⟩, max := ⟨0, 200⟩ }
    (Consistent bounds.min.width bounds.max.width ∧ Within 5000 bounds.min.width bounds.max.width ∧
      Nat.dist (bounds.constrain ⟨20, 400⟩).width.toNat 20 ≤ Nat.dist 5000 20 ∧
      bounds.constrain (bounds.constrain ⟨20, 400⟩) ≠ bounds.constrain ⟨20, 400⟩) ∧
    (0 < bounds.max.height ∧ bounds.max.height < bounds.min.height ∧
      bounds.constrain ⟨20, 400⟩ = ⟨100, 200⟩ ∧
      bounds.constrain (bounds.constrain ⟨20, 400⟩) = ⟨100, 300⟩ ∧
      (bounds.constrain (bounds.constrain (bounds.constrain ⟨20, 400⟩))).height = 200) := by
  intro bounds
  obtain ⟨width, height⟩ := sizes_go_to_the_nearest bounds
  have consistent : Consistent bounds.min.width bounds.max.width := .inl rfl
  have within : Within 5000 bounds.min.width bounds.max.width := ⟨by decide, .inl rfl⟩
  have limited : 0 < bounds.max.height := by decide
  have contradictory : bounds.max.height < bounds.min.height := by decide
  have swings := height.swings limited contradictory
  refine ⟨⟨consistent, within, (width.projects consistent).nearest ⟨20, 400⟩ 5000 within, ?_⟩,
    limited, contradictory, by decide, by decide, swings.returns ⟨20, 400⟩⟩
  exact fun same => swings.again ⟨20, 400⟩ (congrArg Extent.height same)

end SizeBounds

end WindowShell
