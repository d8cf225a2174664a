/-
**Client requests.**

`Shell.handle` answers one request with the shell afterwards and, if the request is rejected, with its
fault. A request is handled step by step, and a step that fails ends it: what the steps before it did is
not taken back.

Destroying a surface takes the popups below it along. A surface is destroyed after its popups, which are
destroyed in the same way, in the order of their numbers.
-/

import WindowShell.Fault
import WindowShell.Shell.Signals

namespace WindowShell

/-- A request of the client: to give a surface a role, to negotiate about it, to have a window moved or
resized interactively, or to destroy a surface. -/
inductive Request
  | newToplevel (surface : SurfaceId)
  | newPopup (surface parent : SurfaceId) (geometry : Rectangle)
  | setMinSize (surface : SurfaceId) (size : Extent)
  | setMaxSize (surface : SurfaceId) (size : Extent)
  | ack (surface : SurfaceId) (serial : UInt32)
  | commit (surface : SurfaceId) (commit : Commit)
  | move (surface : SurfaceId) (seat : SeatId)
  | resize (surface : SurfaceId) (seat : SeatId) (edges : Edges)
  /-- Asks for a window to be maximized or restored. -/
  | maximize (surface : SurfaceId) (maximized : Bool)
  /-- Asks for a window to enter or leave fullscreen. -/
  | fullscreen (surface : SurfaceId) (fullscreen : Bool) (output : Option OutputId)
  | destroy (surface : SurfaceId)
deriving DecidableEq

/-- The shell after a request, with the fault if the request was rejected. -/
structure Reply where
  shell : Shell
  /-- Why the request was rejected. -/
  fault : Option Fault := none
deriving DecidableEq

/-- The handling of a request. A fault keeps what was done before it. -/
abbrev ShellM := Attempt Fault Shell

namespace Shell

/-- The answer to a request that was carried out. -/
def accept (shell : Shell) : Reply := { shell }

/-- The answer to a request that was rejected. -/
def reject (shell : Shell) (fault : Fault) : Reply := { shell, fault := some fault }

/-- The answer to a request that is handled in a certain way, with the shell that this leaves behind. -/
def reply (shell : Shell) (act : ShellM Unit) : Reply :=
  match act.runOn shell with
  | (.ok _, left) => left.accept
  | (.error fault, left) => left.reject fault

/-- Pings a new window, if the settings say so. -/
def ping (shell : Shell) (id : SurfaceId) : Shell :=
  if shell.settings.pingOnCreate then
    let (serial, serials) := shell.serials.allocate
    { shell with serials }.send [.ping id serial]
  else shell

/-- Follows a commit that the surface has taken. -/
def committed (shell : Shell) (id : SurfaceId) (effect : CommitEffect) : Shell :=
  let followed :=
    match effect with
    | .settled => shell
    | .needsConfigure =>
      match shell.surfaces.get? id with
      | none => shell
      | some surface => (shell.configure id surface true).1
    | .mapped => shell.emit id .map
    | .unmapped => shell.emit id .unmap
  followed.emit id .commit

/-- The popups of a surface, by number. -/
def children (shell : Shell) (parent : SurfaceId) : List SurfaceId :=
  SurfaceId.sort
    ((shell.surfaces.entries.filter fun entry => entry.2.role.parent? = some parent).map Prod.fst)

/-- Removes one surface: it is hidden if it was visible, its destruction is announced, and then it
is forgotten. -/
def removeSurface (shell : Shell) (id : SurfaceId) : Shell :=
  match shell.surfaces.get? id with
  | none => shell
  | some surface =>
    let hidden := shell.putSurface id surface.hide
    let hidden := if surface.mapped then hidden.emit id .unmap else hidden
    let announced := hidden.emit id .destroy
    { announced with surfaces := announced.surfaces.erase id }

end Shell

namespace ShellM

/-- Looks up a surface. -/
def lookUp (id : SurfaceId) : ShellM Surface := do
  let some surface := (← get).surfaces.get? id | throw (.unknownSurface id)
  return surface

/-- Adds a surface without a role, unless the surface is there already. -/
def enter (id : SurfaceId) : ShellM Unit :=
  modify fun shell => if shell.surfaces.contains id then shell else shell.putSurface id {}

/-- Asks something of a surface. What that leaves of the surface is stored, even if it refuses. -/
def onSurface {α : Type} (id : SurfaceId) (act : SurfaceM α) : ShellM α := do
  let surface ← lookUp id
  let (answer, left) := act.runOn surface
  modify fun shell => shell.putSurface id left
  match answer with
  | .ok value => return value
  | .error cause => throw (.refused id cause)

/-- Destroys a surface and everything below it, the popups of a surface before the surface itself. How
far down the popups go is bounded, and what is deeper counts as unknown. -/
def destroy : Nat → SurfaceId → ShellM Unit
  | 0, id => throw (.unknownSurface id)
  | depth + 1, id => do
    unless (← get).surfaces.contains id do throw (.unknownSurface id)
    forM ((← get).children id) (destroy depth)
    modify fun shell => shell.removeSurface id

end ShellM

namespace Shell

open ShellM

/-- Answers a request that changes one surface and nothing else. -/
def changeSurface (shell : Shell) (id : SurfaceId) (act : SurfaceM Unit) : Reply :=
  shell.reply (onSurface id act)

/-- Answers a wish that the client may have for a window by passing it on. -/
def forward (shell : Shell) (id : SurfaceId) (signal : Signal) : Reply :=
  shell.reply do
    unless (← lookUp id).isToplevel do throw (.refused id .notToplevel)
    modify fun shell => shell.emit id signal

/-- Answers the request for a new window. -/
def newToplevel (shell : Shell) (id : SurfaceId) : Reply :=
  shell.reply do
    enter id
    onSurface id .assignToplevel
    modify fun shell => (shell.ping id).createView id

/-- Answers the request for a new popup. -/
def newPopup (shell : Shell) (id parent : SurfaceId) (geometry : Rectangle) : Reply :=
  shell.reply do
    if parent = id ∨ !(← get).surfaces.contains parent then throw (.unknownParent id parent)
    enter id
    onSurface id (.assignPopup parent geometry)
    modify fun shell => shell.emit parent (.newPopup id)

/-- Answers a commit. -/
def commit (shell : Shell) (id : SurfaceId) (commit : Commit) : Reply :=
  shell.reply do
    let effect ← onSurface id (.commit commit)
    modify fun shell => shell.committed id effect

/-- Answers the request to destroy a surface. No chain of popups is longer than there are surfaces. -/
def destroy (shell : Shell) (id : SurfaceId) : Reply :=
  shell.reply (ShellM.destroy shell.surfaces.size id)

/-- Answers a request. -/
def handle (shell : Shell) : Request → Reply
  | .newToplevel surface => shell.newToplevel surface
  | .newPopup surface parent geometry => shell.newPopup surface parent geometry
  | .setMinSize surface size => shell.changeSurface surface (.setMinSize size)
  | .setMaxSize surface size => shell.changeSurface surface (.setMaxSize size)
  | .ack surface serial => shell.changeSurface surface (.ack serial)
  | .commit surface commit => shell.commit surface commit
  | .move surface seat => shell.forward surface (.requestMove seat)
  | .resize surface seat edges => shell.forward surface (.requestResize seat edges)
  | .maximize surface maximized => shell.forward surface (.requestMaximize maximized)
  | .fullscreen surface fullscreen output =>
    shell.forward surface (.requestFullscreen fullscreen output)
  | .destroy surface => shell.destroy surface

end Shell

end WindowShell
