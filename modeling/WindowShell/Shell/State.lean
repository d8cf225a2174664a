/-
**The state of the shell.**

For each window of the client the shell keeps a view, which is what the desktop manages, and for each
popup below it a popup record. A popup opened from another popup is attached to the view of the
window at the root, beside its parent. Views and popups own the listeners they registered on the
surfaces they wrap. Not every surface is wrapped: a view or a popup may have been declined.
-/

import WindowShell.Configure
import WindowShell.Desktop
import WindowShell.Negotiation
import WindowShell.Registry
import WindowShell.Settings
import WindowShell.Surface

namespace WindowShell

/-- A window as the desktop manages it. -/
structure View where
  surface : SurfaceId
  position : Point := {}
  /-- The size the client last committed while visible. -/
  size : Size := {}
  negotiation : Negotiation := {}
  /-- The popups below the window, nested ones included, oldest first. -/
  popups : List PopupId := []
  mapped : Bool := false
  listeners : List ListenerId := []
deriving DecidableEq

/-- How far a popup has come. -/
inductive PopupState
  /-- It was never visible. -/
  | created
  | mapped
  /-- It was visible and is not any more. -/
  | unmapped
deriving DecidableEq, Repr

/-- A popup below a window. -/
structure Popup where
  /-- The view of the window at the root. -/
  view : ViewId
  surface : SurfaceId
  state : PopupState := .created
  listeners : List ListenerId := []
deriving DecidableEq

/-- The windows and popups of one client connection, and the messages to the client, oldest first. -/
structure Shell where
  settings : Settings := {}
  desktop : Desktop := {}
  surfaces : Table SurfaceId Surface := .empty
  views : Table ViewId View := .empty
  popups : Table PopupId Popup := .empty
  registry : Registry := {}
  serials : SerialCounter := {}
  outbox : List Message := []
  /-- The number of the newest popup; zero before the first. -/
  lastPopup : UInt32 := 0
deriving DecidableEq

namespace Shell

/-- Tells the desktop something. -/
def tell (shell : Shell) (event : Event) : Shell :=
  { shell with desktop := shell.desktop.tell event }

/-- Sends messages to the client. -/
def send (shell : Shell) (messages : List Message) : Shell :=
  { shell with outbox := shell.outbox ++ messages }

/-- Empties the outbox. Returns what was in it. -/
def takeOutbox (shell : Shell) : List Message × Shell := (shell.outbox, { shell with outbox := [] })

/-- Empties the log of the desktop. Returns what was in it. -/
def takeEvents (shell : Shell) : List Event × Shell :=
  (shell.desktop.events, { shell with desktop := { shell.desktop with events := [] } })

/-- Changes the desktop from outside. -/
def changeDesktop (shell : Shell) (change : Desktop → Desktop) : Shell :=
  { shell with desktop := change shell.desktop }

/-- Stores the state of a surface. -/
def putSurface (shell : Shell) (id : SurfaceId) (surface : Surface) : Shell :=
  { shell with surfaces := shell.surfaces.insert id surface }

/-- Changes the record of a view. -/
def changeView (shell : Shell) (id : ViewId) (change : View → View) : Shell :=
  { shell with views := shell.views.modify id change }

/-- Changes the record of a popup. -/
def changePopup (shell : Shell) (id : PopupId) (change : Popup → Popup) : Shell :=
  { shell with popups := shell.popups.modify id change }

/-- The view that wraps a surface. -/
def viewOf? (shell : Shell) (surface : SurfaceId) : Option ViewId :=
  shell.views.findKey? fun view => view.surface = surface

/-- The popup that wraps a surface. -/
def popupOf? (shell : Shell) (surface : SurfaceId) : Option PopupId :=
  shell.popups.findKey? fun popup => popup.surface = surface

/-- The record of a view with its surface, if that is a window. -/
def window? (shell : Shell) (id : ViewId) : Option (View × Surface × Toplevel) := do
  let view ← shell.views.get? id
  let surface ← shell.surfaces.get? view.surface
  let toplevel ← surface.role.toplevel?
  return (view, surface, toplevel)

/-- Stores a surface and sends it the configure that is due, if one is. Returns the serial of that
configure. -/
def configure (shell : Shell) (id : SurfaceId) (surface : Surface) (force : Bool) :
    Shell × Option Serial :=
  match surface.schedule shell.serials force with
  | none => (shell.putSurface id surface, none)
  | some (configure, surface, serials) =>
    let shell := { shell.putSurface id surface with serials }
    (shell.send [.configure id configure], some configure.serial)

/-- Puts a view at a position and tells the desktop, unless it is there already. -/
def placeView (shell : Shell) (id : ViewId) (position : Point) : Shell :=
  match shell.views.get? id with
  | none => shell
  | some view =>
    if view.position = position then shell
    else (shell.changeView id fun view => { view with position }).tell (.moved id position)

/-! ## Creating and forgetting views and popups -/

/-- The listeners a view owns; an identifier without a view owns none. -/
def viewListeners (shell : Shell) (id : ViewId) : List ListenerId :=
  ((shell.views.get? id).map View.listeners).getD []

/-- The listeners a popup owns; an identifier without a popup owns none. -/
def popupListeners (shell : Shell) (id : PopupId) : List ListenerId :=
  ((shell.popups.get? id).map Popup.listeners).getD []

/-- Creates the view of a new window, if the limit allows it and the desktop does not decline. The
count of views wraps around, and a view that still has the identifier gives up its listeners. -/
def createView (shell : Shell) (surface : SurfaceId) : Shell :=
  if shell.settings.viewFits shell.views.size then
    match shell.desktop.createView with
    | (desktop, none) => { shell with desktop }
    | (desktop, some id) =>
      let (registry, listeners) := shell.registry.install surface (.view id) viewSignals
      { shell with
        desktop
        registry := registry.releaseAll (shell.viewListeners id)
        views := shell.views.insert id { surface, listeners } }
  else shell

/-- Attaches a new popup to a view, if the limit allows it. The count of popups wraps around, and a
popup that still has the identifier gives up its listeners. -/
def createPopup (shell : Shell) (view : ViewId) (surface : SurfaceId) : Shell :=
  match shell.views.get? view with
  | none => shell
  | some owner =>
    if shell.settings.popupFits owner.popups.length then
      let id : PopupId := ⟨shell.lastPopup + 1⟩
      let (registry, listeners) := shell.registry.install surface (.popup id) popupSignals
      { shell with
        lastPopup := id.val
        registry := registry.releaseAll (shell.popupListeners id)
        popups := shell.popups.insert id { view, surface, listeners }
        views := shell.views.modify view fun owner => { owner with popups := owner.popups ++ [id] } }
    else shell

/-- Forgets a popup and releases its listeners. -/
def forgetPopup (shell : Shell) (id : PopupId) : Shell :=
  match shell.popups.get? id with
  | none => shell
  | some popup =>
    { shell with
      popups := shell.popups.erase id
      registry := shell.registry.releaseAll popup.listeners
      views := shell.views.modify popup.view fun owner =>
        { owner with popups := owner.popups.filter (· ≠ id) } }

/-- Forgets a view, releases its listeners, and forgets its popups. -/
def forgetView (shell : Shell) (id : ViewId) : Shell :=
  match shell.views.get? id with
  | none => shell
  | some view =>
    view.popups.foldl forgetPopup
      { shell with
        views := shell.views.erase id
        registry := shell.registry.releaseAll view.listeners }

end Shell

end WindowShell
