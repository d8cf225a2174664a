/-
**Moving and resizing a window together with its client.**

A request to move and resize a window is only half in the compositor's hands: the position is ours,
the size is the client's, and moving before the client has resized makes the dragged edge jump. So
the target is parked until the client has committed the configure that carries it.

A coordinate of the target that differs from the present one is dragged by its leading edge, and then
the opposite edge has to stay where the request puts it. Whatever the size bounds add to the requested
length is therefore taken off the coordinate, and whatever the client commits beyond the configured
length is taken off once more:

* `request_awaited`, `reconcile_awaited`: a request sets the awaited serial only if it has one, and a
  commit clears it only on an exact match;
* `request_released`, `reconcile_released`: when either applies a target.
-/

import WindowShell.Geometry
import WindowShell.Serial

namespace WindowShell

/-- Where a move and resize is to end. -/
structure Target where
  /-- Whether the left edge is dragged. -/
  movesX : Bool := false
  /-- Whether the top edge is dragged. -/
  movesY : Bool := false
  /-- The top left corner, if the client takes exactly the configured size. -/
  position : Point := {}
  size : Extent := {}
deriving DecidableEq, Repr

namespace Target

/-- The target for a wished position and size, of which the bounds allow the `allowed` size. -/
def plan (current wished : Point) (requested allowed : Extent) : Target where
  movesX := wished.x ≠ current.x
  movesY := wished.y ≠ current.y
  position :=
    { x :=
        if wished.x ≠ current.x then
          Coordinate.shift wished.x requested.width.toNat allowed.width.toNat
        else wished.x
      y :=
        if wished.y ≠ current.y then
          Coordinate.shift wished.y requested.height.toNat allowed.height.toNat
        else wished.y }
  size := allowed

/-- Where the window goes once the client has committed a size. A negative length counts as none. -/
def positionFor (target : Target) (current : Point) (committed : Size) : Point where
  x :=
    if target.movesX then
      Coordinate.shift target.position.x target.size.width.toNat committed.width.toNatClampNeg
    else current.x
  y :=
    if target.movesY then
      Coordinate.shift target.position.y target.size.height.toNat committed.height.toNatClampNeg
    else current.y

end Target

/-- The state of one window's move and resize requests. -/
structure Negotiation where
  /-- The target of the latest request. -/
  target : Target := {}
  /-- The serial of the configure whose commit releases the target. -/
  awaited : Option Serial := none
deriving DecidableEq

namespace Negotiation

/-- Records a request. It is parked behind the configure that carries it, or else behind an earlier
one that is still awaited; with nothing to wait for, its position applies at once. -/
def request (negotiation : Negotiation) (target : Target) (serial : Option Serial) :
    Negotiation × Option Point :=
  match serial, negotiation.awaited with
  | some serial, _ => ({ target, awaited := some serial }, none)
  | none, none => ({ target, awaited := none }, some target.position)
  | none, some awaited => ({ target, awaited := some awaited }, none)

/-- Follows a commit of a client that has caught up with the serial `acked`. From the awaited serial
on the target applies; only the awaited serial itself ends the wait, since a client that is ahead
of it may still have a newer request to answer. -/
def reconcile (negotiation : Negotiation) (acked : Option Serial) (current : Point)
    (committed : Size) : Negotiation × Option Point :=
  match negotiation.awaited, acked with
  | some awaited, some acked =>
    if acked < awaited then (negotiation, none)
    else
      ({ negotiation with awaited := if acked = awaited then none else some awaited },
        some (negotiation.target.positionFor current committed))
  | _, _ => (negotiation, none)

theorem request_target (negotiation : Negotiation) (target : Target) (serial : Option Serial) :
    (negotiation.request target serial).1.target = target := by
  unfold request; split <;> rfl

/-- A request awaits the serial it was sent under, and what was awaited before if it has none. -/
theorem request_awaited (negotiation : Negotiation) (target : Target) (serial : Option Serial) :
    (negotiation.request target serial).1.awaited = serial.or negotiation.awaited := by
  unfold request
  split <;> simp_all

/-- A request releases its position exactly if it has no serial and none is awaited. -/
theorem request_released (negotiation : Negotiation) (target : Target) (serial : Option Serial)
    (point : Point) : (negotiation.request target serial).2 = some point ↔
      serial = none ∧ negotiation.awaited = none ∧ point = target.position := by
  unfold request
  split <;> simp_all [eq_comm]

theorem reconcile_target (negotiation : Negotiation) (acked : Option Serial) (current : Point)
    (committed : Size) : (negotiation.reconcile acked current committed).1.target =
      negotiation.target := by
  unfold reconcile
  split
  · split <;> rfl
  · rfl

/-- A commit ends the wait exactly if the client has caught up with the awaited serial itself. -/
theorem reconcile_awaited (negotiation : Negotiation) (acked : Option Serial) (current : Point)
    (committed : Size) : (negotiation.reconcile acked current committed).1.awaited =
      if negotiation.awaited = acked then none else negotiation.awaited := by
  unfold reconcile
  cases waiting : negotiation.awaited with
  | none => simp [waiting]
  | some awaited =>
    cases acked with
    | none => simp [waiting]
    | some acked =>
      simp only [Option.some.injEq]
      split
      · next less =>
        have differ : awaited ≠ acked := by
          rintro rfl
          exact absurd less (UInt32.lt_irrefl _)
        rw [if_neg differ, waiting]
      · by_cases same : acked = awaited
        · simp [same]
        · simp [same, Ne.symm same]

/-- A commit releases the parked target exactly if the client has caught up with what is awaited. -/
theorem reconcile_released (negotiation : Negotiation) (acked : Option Serial) (current : Point)
    (committed : Size) (point : Point) :
    (negotiation.reconcile acked current committed).2 = some point ↔
      ∃ awaited caught, negotiation.awaited = some awaited ∧ acked = some caught ∧
        awaited ≤ caught ∧ point = negotiation.target.positionFor current committed := by
  unfold reconcile
  cases negotiation.awaited with
  | none => simp
  | some awaited =>
    cases acked with
    | none => simp
    | some caught =>
      have order : ¬ caught < awaited ↔ awaited ≤ caught := UInt32.not_lt
      by_cases behind : caught < awaited
      · have late := mt order.mpr (not_not_intro behind)
        simp [behind, late]
      · simp [behind, order.mp behind, eq_comm]

end Negotiation

end WindowShell
