/-
**Configures and the messages that carry them.**

A configure proposes a state to a client under a fresh serial: to a window its size and flags, to a
popup its place relative to its parent. Besides configures the compositor sends pings and the two
ways of asking a client to go away.
-/

import WindowShell.Geometry
import WindowShell.Identifier
import WindowShell.Serial

namespace WindowShell

/-- The state of a window the compositor proposes: its size and its three flags. -/
structure ToplevelState where
  /-- The size of the window; zero leaves it to the client. -/
  size : Extent := {}
  /-- Whether the window fills the work area. -/
  maximized : Bool := false
  /-- Whether the window covers a whole output. -/
  fullscreen : Bool := false
  /-- Whether the window has the focus. -/
  activated : Bool := false
deriving DecidableEq, Repr

/-- What a configure proposes. -/
inductive Payload
  | toplevel (state : ToplevelState)
  /-- The place of a popup relative to its parent. -/
  | popup (geometry : Rectangle)
deriving DecidableEq, Repr

/-- The window state of a payload, if it is for a window. -/
def Payload.toplevel? : Payload → Option ToplevelState
  | .toplevel state => some state
  | .popup _ => none

/-- A proposal sent to a client. -/
structure Configure where
  /-- The number the client names when it acknowledges. -/
  serial : Serial
  payload : Payload
deriving DecidableEq

/-- A message to the client. -/
inductive Message
  | configure (surface : SurfaceId) (configure : Configure)
  | close (surface : SurfaceId)
  /-- Tells a popup that it is dismissed. -/
  | popupDone (surface : SurfaceId)
  /-- Asks the client for a sign of life. -/
  | ping (surface : SurfaceId) (serial : Serial)
deriving DecidableEq

namespace Message

/-- The surface a message is addressed to. -/
def surface : Message → SurfaceId
  | configure surface _ | close surface | popupDone surface | ping surface _ => surface

/-- The serial a message carries. -/
def serial? : Message → Option Serial
  | configure _ sent => some sent.serial
  | ping _ serial => some serial
  | close _ | popupDone _ => none

/-- The configure a message carries to the given surface. -/
def configureFor? (id : SurfaceId) : Message → Option Configure
  | configure surface sent => if surface = id then some sent else none
  | _ => none

end Message

end WindowShell
