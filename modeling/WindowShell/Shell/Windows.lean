/-
**What window management asks of a view.**

Window management addresses views and never surfaces. A call on a view that is unknown, or whose
surface is no window, does nothing. A call that changes what the window should be sends a configure if
that differs from the newest one; a move waits for the client as the negotiation of the view says.
-/

import WindowShell.Shell.State

namespace WindowShell

/-- Something window management asks of a view. -/
inductive WindowCall
  /-- Gives the window the focus or takes it away. -/
  | activate (active : Bool)
  | resize (size : Extent)
  | moveResize (position : Point) (size : Extent)
  /-- Maximizes or restores the window. -/
  | maximize (maximized : Bool)
  /-- Makes the window enter or leave fullscreen. -/
  | fullscreen (fullscreen : Bool)
  /-- Asks the client to close the window, and its popups first. -/
  | close
  /-- Forgets the view; the surface stays. -/
  | destroy
deriving DecidableEq

namespace Shell

/-- Changes what a window should be and tells its client, if that is news. -/
def propose (shell : Shell) (view : View) (surface : Surface)
    (change : ToplevelState → ToplevelState) : Shell × Option Serial :=
  shell.configure view.surface (surface.setPending change) false

/-- Asks for a position and a size, within the bounds of the window. -/
def moveResize (shell : Shell) (id : ViewId) (view : View) (surface : Surface)
    (bounds : SizeBounds) (position : Point) (size : Extent) : Shell :=
  let allowed := bounds.constrain size
  let target := Target.plan view.position position size allowed
  let (shell, serial) := shell.propose view surface fun state => { state with size := allowed }
  let (negotiation, released) := view.negotiation.request target serial
  let shell := shell.changeView id fun view => { view with negotiation }
  match released with
  | none => shell
  | some position => shell.placeView id position

/-- The messages that ask the popups of a view to go away, oldest popup first. -/
def dismissals (shell : Shell) (view : View) : List Message :=
  view.popups.filterMap fun id => do
    let popup ← shell.popups.get? id
    let surface ← shell.surfaces.get? popup.surface
    surface.closeMessage? popup.surface

/-- Asks the client to close a window, its popups before itself. -/
def closeWindow (shell : Shell) (view : View) (surface : Surface) : Shell :=
  shell.send (shell.dismissals view ++ (surface.closeMessage? view.surface).toList)

/-- Acts on the window of a view; without a window nothing happens. -/
def onWindow (shell : Shell) (id : ViewId) (act : View → Surface → Toplevel → Shell) : Shell :=
  match shell.window? id with
  | none => shell
  | some (view, surface, toplevel) => act view surface toplevel

/-- Carries out a call on a view. -/
def call (shell : Shell) (id : ViewId) : WindowCall → Shell
  | .activate active =>
    shell.onWindow id fun view surface _ =>
      (shell.propose view surface fun state => { state with activated := active }).1
  | .resize size =>
    shell.onWindow id fun view surface toplevel =>
      (shell.propose view surface fun state =>
        { state with size := toplevel.bounds.constrain size }).1
  | .moveResize position size =>
    shell.onWindow id fun view surface toplevel =>
      shell.moveResize id view surface toplevel.bounds position size
  | .maximize maximized =>
    shell.onWindow id fun view surface _ =>
      (shell.propose view surface fun state => { state with maximized }).1
  | .fullscreen fullscreen =>
    shell.onWindow id fun view surface _ =>
      (shell.propose view surface fun state => { state with fullscreen }).1
  | .close => shell.onWindow id fun view surface _ => shell.closeWindow view surface
  | .destroy => shell.forgetView id

end Shell

end WindowShell
