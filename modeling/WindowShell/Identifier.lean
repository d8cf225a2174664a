/-
**Identifiers.**

Surfaces, views, popups, seats and outputs are named by 32-bit numbers. Each kind of number has a
type of its own, so that a view is never looked up where a surface is meant. In a message an
identifier is written with its kind, as in `SurfaceId(9)`. Surfaces may also be sorted by number:

* `SurfaceId.sort_perm`, `SurfaceId.sort_congr`: this changes nothing but their order, and no other order
  of the same surfaces comes out differently.
-/

namespace WindowShell

/-- Names a surface. The client chooses the number. -/
structure SurfaceId where
  val : UInt32
deriving DecidableEq, Repr

/-- Names a window the desktop manages. The desktop chooses the number. -/
structure ViewId where
  val : UInt32
deriving DecidableEq, Repr

/-- Names a popup that is attached to a view. The shell chooses the number. -/
structure PopupId where
  val : UInt32
deriving DecidableEq, Repr

/-- Names an input seat. -/
structure SeatId where
  val : UInt32
deriving DecidableEq, Repr

/-- Names an output. -/
structure OutputId where
  val : UInt32
deriving DecidableEq, Repr

namespace SurfaceId

/-- A surface as it is named in a message. -/
def label (id : SurfaceId) : String := s!"SurfaceId({id.val.toNat})"

/-- Puts a surface into its place in a list by number. -/
def place (id : SurfaceId) : List SurfaceId → List SurfaceId
  | [] => [id]
  | other :: rest => if id.val ≤ other.val then id :: other :: rest else other :: place id rest

/-- The surfaces by number. -/
def sort (ids : List SurfaceId) : List SurfaceId := ids.foldr place []

theorem place_perm (id : SurfaceId) (ids : List SurfaceId) : (place id ids).Perm (id :: ids) := by
  induction ids with
  | nil => exact .refl _
  | cons other rest ih =>
    unfold place
    split
    · exact .refl _
    · exact (ih.cons other).trans (.swap id other rest)

/-- Sorting only changes the order. -/
theorem sort_perm (ids : List SurfaceId) : (sort ids).Perm ids := by
  induction ids with
  | nil => exact .refl _
  | cons id rest ih => exact (place_perm id (sort rest)).trans (ih.cons id)

theorem place_place (first second : SurfaceId) (ids : List SurfaceId) :
    place first (place second ids) = place second (place first ids) := by
  obtain ⟨first⟩ := first
  obtain ⟨second⟩ := second
  induction ids with
  | nil => grind [place]
  | cons other rest ih => grind [place]

/-- The order in which surfaces come before they are sorted does not matter. -/
theorem sort_congr {first second : List SurfaceId} (same : first.Perm second) :
    sort first = sort second := by
  induction same with
  | nil => rfl
  | cons id _ ih => exact congrArg (place id) ih
  | swap first second ids => exact place_place second first (sort ids)
  | trans _ _ early late => exact early.trans late

example : sort [⟨3⟩, ⟨1⟩, ⟨2⟩] = [⟨1⟩, ⟨2⟩, ⟨3⟩] := by decide

end SurfaceId

end WindowShell
