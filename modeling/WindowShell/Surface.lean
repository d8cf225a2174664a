/-
**The protocol state of one surface.**

A surface gets a role once: it is a window or a popup. From then on three conversations run side by
side. The compositor sends configures, which stay in flight until the client acknowledges them. The
client acknowledges a configure, which also settles all older ones. And the client commits: only a
commit makes an acknowledged configure, the declared size bounds and a new buffer take effect. A
surface is mapped while it holds a buffer, and it may hold one only after it has acknowledged a
configure. Removing the buffer unmaps the surface and starts the exchange over.

What breaks these rules is refused with its cause. An operation that is refused keeps what it did before
that, so each one makes its checks first.
-/

import WindowShell.Attempt
import WindowShell.Configure
import WindowShell.SizeBounds

namespace WindowShell

/-- Why a surface refuses a request. -/
inductive Refusal
  | roleAlreadyAssigned
  | noRole
  | notToplevel
  /-- No configure with this serial is in flight. -/
  | invalidSerial (serial : UInt32)
  /-- A buffer was attached before any configure was acknowledged. -/
  | unconfiguredBuffer
deriving DecidableEq, Repr

/-- The state of a window. -/
structure Toplevel where
  /-- The state of the last configure the client has committed. -/
  current : ToplevelState := {}
  bounds : SizeBounds := {}
  /-- The state the compositor wants the window to have. -/
  pending : ToplevelState := {}
  /-- What the client declared since its last commit. -/
  declaredMin : Option Extent := none
  declaredMax : Option Extent := none
deriving DecidableEq

/-- Makes the declared size bounds take effect. -/
def Toplevel.latchBounds (toplevel : Toplevel) : Toplevel :=
  { toplevel with
    bounds :=
      { min := toplevel.declaredMin.getD toplevel.bounds.min
        max := toplevel.declaredMax.getD toplevel.bounds.max }
    declaredMin := none
    declaredMax := none }

/-- What a surface is for. -/
inductive Role
  | unset
  | toplevel (toplevel : Toplevel)
  /-- A popup at a place relative to its parent. -/
  | popup (parent : SurfaceId) (geometry : Rectangle)
deriving DecidableEq

namespace Role

/-- The state of a window, if the role is that of one. -/
def toplevel? : Role → Option Toplevel
  | toplevel state => some state
  | _ => none

/-- The parent of a popup. -/
def parent? : Role → Option SurfaceId
  | popup parent _ => some parent
  | _ => none

/-- Changes the state of a window; other roles stay as they are. -/
def mapToplevel (change : Toplevel → Toplevel) : Role → Role
  | toplevel state => toplevel (change state)
  | role => role

/-- Takes over a committed payload: a window its state, a popup nothing. -/
def adopt (role : Role) : Payload → Role
  | .toplevel state => role.mapToplevel fun toplevel => { toplevel with current := state }
  | .popup _ => role

end Role

/-- What a commit does with the buffer. -/
inductive Attachment
  | keep
  | attach (size : Size)
  | remove
deriving DecidableEq, Repr

/-- The buffer after an attachment. -/
def Attachment.apply (buffer : Option Size) : Attachment → Option Size
  | keep => buffer
  | attach size => some size
  | remove => none

/-- What a client commits. -/
structure Commit where
  buffer : Attachment := .keep
  /-- The window geometry, if a new one is declared. -/
  geometry : Option Rectangle := none
deriving DecidableEq, Repr

/-- What a commit means for the shell. -/
inductive CommitEffect
  /-- Nothing to react to. -/
  | settled
  | mapped
  | unmapped
  /-- The surface waits for its first configure. -/
  | needsConfigure
deriving DecidableEq, Repr

/-- The protocol state of one surface. -/
structure Surface where
  role : Role := .unset
  /-- Whether a configure was acknowledged and committed since the surface was last unmapped. -/
  configured : Bool := false
  mapped : Bool := false
  geometry : Option Rectangle := none
  buffer : Option Size := none
  /-- The configures sent and not yet acknowledged, oldest first. -/
  inflight : List Configure := []
  /-- The configure that was acknowledged and not yet committed. -/
  acked : Option Configure := none
  /-- The serial of the configure that the last commit has caught up with. -/
  configureSerial : Option Serial := none
deriving DecidableEq

namespace Surface

/-- Whether the surface is a window. -/
def isToplevel (surface : Surface) : Bool := surface.role.toplevel?.isSome

/-- Whether the surface is a popup. -/
def isPopup (surface : Surface) : Bool := surface.role.parent?.isSome

/-- Changes what the compositor wants a window to be; other surfaces stay as they are. -/
def setPending (surface : Surface) (change : ToplevelState → ToplevelState) : Surface :=
  { surface with
    role := surface.role.mapToplevel fun toplevel =>
      { toplevel with pending := change toplevel.pending } }

/-! ## Configures -/

/-- The window state of the newest configure: the last one in flight, else the committed one. -/
def latestToplevelState? (surface : Surface) : Option ToplevelState :=
  (surface.inflight.getLast?.bind fun configure => configure.payload.toplevel?).or
    (surface.role.toplevel?.map Toplevel.current)

/-- What a configure would have to say now. A window is told its pending state if that differs from
the newest configure; a popup is told its place only when forced, and `force` always tells. -/
def duePayload? (surface : Surface) (force : Bool) : Option Payload :=
  match surface.role with
  | .unset => none
  | .toplevel toplevel =>
    if !force && surface.latestToplevelState? == some toplevel.pending then none
    else some (.toplevel toplevel.pending)
  | .popup _ geometry => if force then some (.popup geometry) else none

/-- Sends the configure that is due, under the next serial. -/
def schedule (surface : Surface) (serials : SerialCounter) (force : Bool) :
    Option (Configure × Surface × SerialCounter) :=
  (surface.duePayload? force).map fun payload =>
    let (serial, serials) := serials.allocate
    let configure : Configure := { serial, payload }
    (configure, { surface with inflight := surface.inflight ++ [configure] }, serials)

/-- The serial of the newest configure in flight. -/
def newestSerial? (surface : Surface) : Option Serial :=
  surface.inflight.getLast?.map Configure.serial

/-! ## Commits -/

/-- Takes over the acknowledged configure. -/
def latchAck (surface : Surface) : Surface :=
  match surface.acked with
  | none => surface
  | some configure =>
    { surface with
      role := surface.role.adopt configure.payload
      configured := true
      acked := none
      configureSerial := some configure.serial }

/-- Takes over what the client declared and attached. -/
def latchContent (surface : Surface) (commit : Commit) : Surface :=
  { surface with
    role := surface.role.mapToplevel Toplevel.latchBounds
    geometry := commit.geometry.or surface.geometry
    buffer := commit.buffer.apply surface.buffer }

/-- Brings visibility in line with the buffer. A surface that lost its buffer starts over. -/
def settle (surface : Surface) : Surface × CommitEffect :=
  if surface.mapped && surface.buffer.isNone then
    ({ surface with mapped := false, configured := false, geometry := none, inflight := [] },
      .unmapped)
  else if !surface.mapped && surface.configured && surface.buffer.isSome then
    ({ surface with mapped := true }, .mapped)
  else if !surface.configured && surface.inflight.isEmpty && surface.buffer.isNone then
    (surface, .needsConfigure)
  else (surface, .settled)

/-- Whether a commit attaches a buffer before any configure was acknowledged. -/
def attachesTooEarly (surface : Surface) (commit : Commit) : Bool :=
  match commit.buffer with
  | .attach _ => !surface.configured && surface.acked.isNone
  | _ => false

/-- Hides the surface ahead of its destruction. -/
def hide (surface : Surface) : Surface := { surface with mapped := false }

/-- The message that asks the surface to go away. -/
def closeMessage? (surface : Surface) (id : SurfaceId) : Option Message :=
  match surface.role with
  | .unset => none
  | .toplevel _ => some (.close id)
  | .popup _ _ => some (.popupDone id)

/-- The size of the surface on the desktop: its declared geometry unless that is empty, else its
buffer, else nothing. -/
def contentSize (surface : Surface) : Size :=
  match surface.geometry, surface.buffer with
  | some geometry, buffer =>
    if 0 < geometry.size.width ∧ 0 < geometry.size.height then geometry.size else buffer.getD {}
  | none, buffer => buffer.getD {}

end Surface

/-! ## What a client asks of a surface -/

/-- What a client asks of a surface. A refusal keeps what was done before it. -/
abbrev SurfaceM := Attempt Refusal Surface

namespace SurfaceM

/-- Gives the surface its role, once. -/
def assignRole (role : Role) : SurfaceM Unit := do
  unless (← get).role = .unset do throw .roleAlreadyAssigned
  modify fun surface => { surface with role }

/-- Makes the surface a window. -/
def assignToplevel : SurfaceM Unit := assignRole (.toplevel {})

/-- Makes the surface a popup. -/
def assignPopup (parent : SurfaceId) (geometry : Rectangle) : SurfaceM Unit :=
  assignRole (.popup parent geometry)

/-- Changes the state of a window; a surface that is none refuses. -/
def changeToplevel (change : Toplevel → Toplevel) : SurfaceM Unit := do
  unless (← get).isToplevel do throw .notToplevel
  modify fun surface => { surface with role := surface.role.mapToplevel change }

/-- Declares a least size, which the next commit makes effective. -/
def setMinSize (size : Extent) : SurfaceM Unit :=
  changeToplevel fun toplevel => { toplevel with declaredMin := some size }

/-- Declares a greatest size, which the next commit makes effective. -/
def setMaxSize (size : Extent) : SurfaceM Unit :=
  changeToplevel fun toplevel => { toplevel with declaredMax := some size }

/-- Acknowledges the configure with a serial. All older configures are settled with it. -/
def ack (raw : UInt32) : SurfaceM Unit := do
  let some serial := Serial.ofRaw? raw | throw (.invalidSerial raw)
  let some position := (← get).inflight.findIdx? fun configure => configure.serial = serial
    | throw (.invalidSerial raw)
  modify fun surface =>
    { surface with
      inflight := surface.inflight.drop (position + 1)
      acked := (surface.inflight.take (position + 1)).getLast? }

/-- Applies a commit. -/
def commit (commit : Commit) : SurfaceM CommitEffect := do
  if (← get).role = .unset then throw .noRole
  if (← get).attachesTooEarly commit then throw .unconfiguredBuffer
  modify Surface.latchAck
  modify (Surface.latchContent · commit)
  modifyGet fun surface => surface.settle.swap

end SurfaceM

end WindowShell
