/-
**Steps of a scenario.**

A step is what a client or the desktop does next. A step of the client becomes a request; an
acknowledgement without a serial means the newest configure in flight. A step of the desktop names a
window by its surface and becomes a call on the view of that window; without a view nothing happens.
-/

import WindowShell.Shell.Requests
import WindowShell.Shell.Windows

namespace WindowShell

/-- One step of a scenario. -/
inductive Step
  /-- The client makes a surface a window. -/
  | newToplevel (surface : SurfaceId)
  /-- The client makes a surface a popup. -/
  | newPopup (surface parent : SurfaceId) (geometry : Rectangle)
  | setMinSize (surface : SurfaceId) (size : Extent)
  | setMaxSize (surface : SurfaceId) (size : Extent)
  /-- The client acknowledges a configure, the newest one unless a serial is given. -/
  | ack (surface : SurfaceId) (serial : Option UInt32)
  /-- The client commits; removing the buffer counts more than attaching one. -/
  | commit (surface : SurfaceId) (buffer : Option Size) (removeBuffer : Bool)
    (geometry : Option Rectangle)
  | requestMove (surface : SurfaceId) (seat : SeatId)
  | requestResize (surface : SurfaceId) (seat : SeatId) (edges : Edges)
  | requestMaximize (surface : SurfaceId) (maximized : Bool)
  | requestFullscreen (surface : SurfaceId) (fullscreen : Bool) (output : Option OutputId)
  | destroy (surface : SurfaceId)
  /-- The desktop gives a window the focus or takes it away. -/
  | activate (surface : SurfaceId) (active : Bool)
  | resize (surface : SurfaceId) (size : Extent)
  | moveResize (surface : SurfaceId) (position : Point) (size : Extent)
  | maximize (surface : SurfaceId) (maximized : Bool)
  | fullscreen (surface : SurfaceId) (fullscreen : Bool)
  | close (surface : SurfaceId)
  /-- The desktop forgets the view of a window. -/
  | destroyView (surface : SurfaceId)
deriving DecidableEq

namespace Step

/-- The surface a step is about. -/
def surface : Step → SurfaceId
  | newToplevel surface | newPopup surface _ _ | setMinSize surface _ | setMaxSize surface _
  | ack surface _ | commit surface _ _ _ | requestMove surface _ | requestResize surface _ _
  | requestMaximize surface _ | requestFullscreen surface _ _ | destroy surface
  | activate surface _ | resize surface _ | moveResize surface _ _ | maximize surface _
  | fullscreen surface _ | close surface | destroyView surface => surface

/-- What a commit step does with the buffer. -/
def attachment (buffer : Option Size) (removeBuffer : Bool) : Attachment :=
  match removeBuffer, buffer with
  | true, _ => .remove
  | false, some size => .attach size
  | false, none => .keep

end Step

namespace Shell

/-- Answers the acknowledgement of the newest configure in flight. -/
def ackNewest (shell : Shell) (id : SurfaceId) : Reply :=
  match shell.surfaces.get? id with
  | none => shell.reject (.unknownSurface id)
  | some surface =>
    match surface.newestSerial? with
    | none => shell.reject (.refused id (.invalidSerial 0))
    | some serial => shell.handle (.ack id serial.val)

/-- Carries out a call on the view that wraps a surface, if there is one. -/
def callOf (shell : Shell) (surface : SurfaceId) (call : WindowCall) : Reply :=
  match shell.viewOf? surface with
  | none => shell.accept
  | some view => (shell.call view call).accept

/-- Carries out a step. -/
def apply (shell : Shell) : Step → Reply
  | .newToplevel surface => shell.handle (.newToplevel surface)
  | .newPopup surface parent geometry => shell.handle (.newPopup surface parent geometry)
  | .setMinSize surface size => shell.handle (.setMinSize surface size)
  | .setMaxSize surface size => shell.handle (.setMaxSize surface size)
  | .ack surface none => shell.ackNewest surface
  | .ack surface (some serial) => shell.handle (.ack surface serial)
  | .commit surface buffer removeBuffer geometry =>
    shell.handle (.commit surface { buffer := Step.attachment buffer removeBuffer, geometry })
  | .requestMove surface seat => shell.handle (.move surface seat)
  | .requestResize surface seat edges => shell.handle (.resize surface seat edges)
  | .requestMaximize surface maximized => shell.handle (.maximize surface maximized)
  | .requestFullscreen surface fullscreen output =>
    shell.handle (.fullscreen surface fullscreen output)
  | .destroy surface => shell.handle (.destroy surface)
  | .activate surface active => shell.callOf surface (.activate active)
  | .resize surface size => shell.callOf surface (.resize size)
  | .moveResize surface position size => shell.callOf surface (.moveResize position size)
  | .maximize surface maximized => shell.callOf surface (.maximize maximized)
  | .fullscreen surface fullscreen => shell.callOf surface (.fullscreen fullscreen)
  | .close surface => shell.callOf surface .close
  | .destroyView surface => shell.callOf surface .destroy

end Shell

end WindowShell
