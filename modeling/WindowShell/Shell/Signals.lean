/-
**How views and popups follow their surfaces.**

A signal of a surface reaches every listener registered for it, in the order of registration; one that
an earlier listener has released is passed over. A view keeps the size and position of its window in
step with what the client commits, and tells the desktop of every change. A popup reports its damage
against the view at the root.
-/

import WindowShell.Shell.State

namespace WindowShell.Shell

/-- A view follows a commit of its surface: while that is visible, the view takes its size and, when
the client has caught up, the position that was parked. -/
def viewCommitted (shell : Shell) (id : ViewId) : Shell :=
  match shell.views.get? id with
  | none => shell
  | some view =>
    match shell.surfaces.get? view.surface with
    | none => shell
    | some surface =>
      if surface.mapped then
        let size := surface.contentSize
        let (negotiation, released) :=
          view.negotiation.reconcile surface.configureSerial view.position size
        let shell := shell.changeView id fun view => { view with size, negotiation }
        let shell :=
          match released with
          | none => shell
          | some position => shell.placeView id position
        (shell.tell (.damaged id)).tell (.resized id size)
      else shell

/-- A view becomes visible with its surface. -/
def viewMapped (shell : Shell) (id : ViewId) : Shell :=
  match shell.views.get? id with
  | none => shell
  | some view =>
    match shell.surfaces.get? view.surface with
    | none => shell
    | some surface =>
      let size := surface.contentSize
      let sized := shell.changeView id fun view => { view with size, mapped := true }
      if view.mapped then sized else sized.tell (.mapped id size)

/-- A view stops being visible with its surface. -/
def viewUnmapped (shell : Shell) (id : ViewId) : Shell :=
  match shell.views.get? id with
  | none => shell
  | some view =>
    if view.mapped then
      (shell.changeView id fun view => { view with mapped := false }).tell (.unmapped id)
    else shell

/-- A view goes away with its surface. -/
def viewDestroyed (shell : Shell) (id : ViewId) : Shell :=
  match shell.views.get? id with
  | none => shell
  | some view =>
    let shell := shell.forgetView id
    let shell := if view.mapped then shell.tell (.unmapped id) else shell
    shell.tell (.destroyed id)

/-- What a view does on a signal of its surface. -/
def deliverToView (shell : Shell) (id : ViewId) : Signal → Shell
  | .commit => shell.viewCommitted id
  | .map => shell.viewMapped id
  | .unmap => shell.viewUnmapped id
  | .destroy => shell.viewDestroyed id
  | .newPopup surface => shell.createPopup id surface
  | .requestMove seat =>
    if shell.desktop.seatIsIdle seat then shell.tell (.beginMove seat id) else shell
  | .requestResize seat edges =>
    if shell.desktop.seatIsIdle seat then shell.tell (.beginResize seat id edges) else shell
  | .requestMaximize maximized => shell.tell (.maximizeRequested id maximized)
  | .requestFullscreen fullscreen output =>
    shell.tell (.fullscreenRequested id fullscreen output)

/-- What a popup does on a signal of its surface. -/
def deliverToPopup (shell : Shell) (id : PopupId) (signal : Signal) : Shell :=
  match shell.popups.get? id with
  | none => shell
  | some popup =>
    match signal with
    | .commit => shell.tell (.damaged popup.view)
    | .map =>
      (shell.changePopup id fun popup => { popup with state := .mapped }).tell
        (.fullyDamaged popup.view)
    | .unmap =>
      (shell.changePopup id fun popup => { popup with state := .unmapped }).tell
        (.fullyDamaged popup.view)
    | .destroy => shell.forgetPopup id
    | .newPopup surface => shell.createPopup popup.view surface
    | .requestMove _ | .requestResize _ _ | .requestMaximize _ | .requestFullscreen _ _ => shell

/-- What a listener does on a signal. -/
def deliver (shell : Shell) (signal : Signal) : ListenerTarget → Shell
  | .view id => shell.deliverToView id signal
  | .popup id => shell.deliverToPopup id signal

/-- Sends a signal of a surface to its listeners, passing over those that are gone by then. -/
def emit (shell : Shell) (surface : SurfaceId) (signal : Signal) : Shell :=
  (shell.registry.listeners surface signal.kind).foldl
    (fun shell listener =>
      if shell.registry.isLive listener.1 then shell.deliver signal listener.2 else shell)
    shell

end WindowShell.Shell
