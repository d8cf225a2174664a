/-
**The desktop around the shell.**

The desktop owns the seats, hands out view identifiers, and is told everything that happens to a
view. It may decline to manage a new window. What it was told is kept as a log of events, in order.
-/

import WindowShell.Edges
import WindowShell.Geometry
import WindowShell.Identifier
import WindowShell.Table

namespace WindowShell

/-- What the pointer of a seat is doing. -/
inductive SeatMode
  /-- Idle: events pass through to clients. -/
  | passthrough
  | move
  | resize
  | rotate
deriving DecidableEq, Repr

/-- Something the desktop was told about a view. -/
inductive Event
  | viewCreated (view : ViewId)
  | beginMove (seat : SeatId) (view : ViewId)
  | beginResize (seat : SeatId) (view : ViewId) (edges : Edges)
  /-- Some of the view has to be drawn again. -/
  | damaged (view : ViewId)
  /-- All of the view has to be drawn again. -/
  | fullyDamaged (view : ViewId)
  | mapped (view : ViewId) (size : Size)
  | unmapped (view : ViewId)
  | destroyed (view : ViewId)
  | moved (view : ViewId) (position : Point)
  | resized (view : ViewId) (size : Size)
  | maximizeRequested (view : ViewId) (maximized : Bool)
  | fullscreenRequested (view : ViewId) (fullscreen : Bool) (output : Option OutputId)
deriving DecidableEq, Repr

/-- The view an event is about. -/
def Event.view : Event → ViewId
  | viewCreated view | beginMove _ view | beginResize _ view _ | damaged view | fullyDamaged view
  | mapped view _ | unmapped view | destroyed view | moved view _ | resized view _
  | maximizeRequested view _ | fullscreenRequested view _ _ => view

/-- The seats, the count of views, and the log of events. -/
structure Desktop where
  seats : Table SeatId SeatMode := .empty
  /-- The number of the newest view; zero before the first. -/
  lastView : UInt32 := 0
  /-- How many of the next views are declined. -/
  refusals : Nat := 0
  /-- What the desktop was told, oldest first. -/
  events : List Event := []
deriving DecidableEq

namespace Desktop

/-- Tells the desktop something. -/
def tell (desktop : Desktop) (event : Event) : Desktop :=
  { desktop with events := desktop.events ++ [event] }

/-- The desktop after it was asked for a view: with the view it created, or with one refusal
less. -/
def createView (desktop : Desktop) : Desktop × Option ViewId :=
  match desktop.refusals with
  | remaining + 1 => ({ desktop with refusals := remaining }, none)
  | 0 =>
    let view : ViewId := ⟨desktop.lastView + 1⟩
    (tell { desktop with lastView := view.val } (.viewCreated view), some view)

/-- Whether an interactive move or resize may start from a seat: it is known and idle. -/
def seatIsIdle (desktop : Desktop) (seat : SeatId) : Bool :=
  desktop.seats.get? seat = some .passthrough

/-- Changes what a seat is doing; a new seat is added. -/
def setSeatMode (desktop : Desktop) (seat : SeatId) (mode : SeatMode) : Desktop :=
  { desktop with seats := desktop.seats.insert seat mode }

/-- Declines the next views, as many as given. -/
def refuseViews (desktop : Desktop) (count : Nat) : Desktop := { desktop with refusals := count }

end Desktop

end WindowShell
