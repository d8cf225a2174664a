/-
**A client without a screen.**

A client that talks to a shell of its own: it numbers its surfaces, sends requests, and answers
configures. What it does either yields something or ends in a fault; what was done before the fault
stays done.
-/

import WindowShell.Attempt
import WindowShell.Scenario

namespace WindowShell

/-- A shell and the client that uses it. -/
structure Client where
  shell : Shell := {}
  /-- The number of the newest surface; zero before the first. -/
  lastSurface : UInt32 := 0

/-- Why a client cannot go on. -/
inductive ClientFault
  /-- Nothing is there to acknowledge. -/
  | noConfigure (surface : SurfaceId)
  /-- The window has no view. -/
  | noView (surface : SurfaceId)
  /-- The shell rejected a request. -/
  | rejected (fault : Fault)
deriving DecidableEq

/-- The wording of a client's fault. -/
def ClientFault.message : ClientFault → String
  | noConfigure surface => s!"no configure in flight for {surface.label}"
  | noView surface => s!"no view for {surface.label}"
  | rejected fault => "shell error: " ++ fault.report

/-- Something a client does; a fault keeps what was done before. -/
abbrev ClientM := Attempt ClientFault Client

namespace Client

/-- A client of a shell with the given settings. -/
def withSettings (settings : Settings) : Client := { shell := { settings } }

/-- Changes the shell from outside, as window management or the desktop do. -/
def changeShell (change : Shell → Shell) : ClientM Unit :=
  modify fun client => { client with shell := change client.shell }

/-- Changes the desktop from outside. -/
def changeDesktop (change : Desktop → Desktop) : ClientM Unit :=
  changeShell fun shell => shell.changeDesktop change

/-- Sends a request. -/
def request (request : Request) : ClientM Unit := do
  let reply := (← get).shell.handle request
  modify fun client => { client with shell := reply.shell }
  match reply.fault with
  | none => return
  | some fault => throw (.rejected fault)

/-- The number of a new surface. -/
def nextSurface : ClientM SurfaceId := do
  modify fun client => { client with lastSurface := client.lastSurface + 1 }
  return ⟨(← get).lastSurface⟩

/-- Makes a new window. -/
def createToplevel : ClientM SurfaceId := do
  let surface ← nextSurface
  request (.newToplevel surface)
  return surface

/-- Makes a new popup. -/
def createPopup (parent : SurfaceId) (geometry : Rectangle) : ClientM SurfaceId := do
  let surface ← nextSurface
  request (.newPopup surface parent geometry)
  return surface

/-- Commits a buffer of a size. -/
def commitBuffer (surface : SurfaceId) (size : Size) : ClientM Unit :=
  request (.commit surface { buffer := .attach size })

/-- The serials of the configures that were sent to a surface and not yet acknowledged. -/
def inflight (client : Client) (surface : SurfaceId) : List Serial :=
  ((client.shell.surfaces.get? surface).map fun surface =>
    surface.inflight.map Configure.serial).getD []

/-- Acknowledges the newest configure. -/
def ackLatest (surface : SurfaceId) : ClientM Serial := do
  match ((← get).inflight surface).getLast? with
  | none => throw (.noConfigure surface)
  | some serial =>
    request (.ack surface serial.val)
    return serial

/-- Acknowledges the configure at a place among those in flight, if there is one. -/
def ackAt (surface : SurfaceId) (place : Nat) : ClientM (Option Serial) := do
  match ((← get).inflight surface)[place]? with
  | none => return none
  | some serial =>
    request (.ack surface serial.val)
    return some serial

/-- Makes a surface visible: commits it, acknowledges its first configure, and commits a buffer. -/
def mapSurface (surface : SurfaceId) (size : Size) : ClientM Unit := do
  request (.commit surface {})
  let _ ← ackLatest surface
  commitBuffer surface size

/-- Makes a new window and makes it visible. -/
def mapToplevel (size : Size) : ClientM (SurfaceId × ViewId) := do
  let surface ← createToplevel
  mapSurface surface size
  match (← get).shell.viewOf? surface with
  | none => throw (.noView surface)
  | some view => return (surface, view)

/-- Empties the outbox and returns what was in it. -/
def takeMessages : ClientM (List Message) := do
  let (messages, shell) := (← get).shell.takeOutbox
  changeShell fun _ => shell
  return messages

/-- Empties the log of the desktop and returns what was in it. -/
def takeEvents : ClientM (List Event) := do
  let (events, shell) := (← get).shell.takeEvents
  changeShell fun _ => shell
  return events

/-- The configures in the outbox for a surface, oldest first. -/
def configuresFor (client : Client) (surface : SurfaceId) : List Configure :=
  client.shell.outbox.filterMap (Message.configureFor? surface)

/-- The window state of the newest configure in the outbox that has one, for a surface. -/
def lastToplevelState? (client : Client) (surface : SurfaceId) : Option ToplevelState :=
  (client.configuresFor surface).reverse.findSome? fun configure => configure.payload.toplevel?

/-- The client after it did something, faults left aside. -/
def after {α : Type} (client : Client) (act : ClientM α) : Client := (act.runOn client).2

/-- How many popups all views have together. -/
def popupCount (client : Client) : Nat :=
  (client.shell.views.values.flatMap View.popups).length

end Client

end WindowShell
