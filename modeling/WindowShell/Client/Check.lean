/-
**Checks on a client's shell.**
-/

import WindowShell.Client

namespace WindowShell.Client

/-- Whether a view is at a position. -/
def isAt (client : Client) (view : ViewId) (position : Point) : Bool :=
  (client.shell.views.get? view).map View.position = some position

/-- Whether a view waits for nothing. -/
def isIdle (client : Client) (view : ViewId) : Bool :=
  (client.shell.views.get? view).map (fun view => view.negotiation.awaited) = some none

/-- Whether no listener is live. -/
def hasNoListeners (client : Client) : Bool := client.shell.registry.size = 0

/-- Whether the log holds no event about a view. -/
def hasNoEventsFor (client : Client) (view : ViewId) : Bool :=
  client.shell.desktop.events.all fun event => event.view ≠ view

/-- Whether a message asks a window to close. -/
def isClose : Message → Bool
  | .close _ => true
  | _ => false

/-- Whether a message dismisses a popup. -/
def isPopupDone : Message → Bool
  | .popupDone _ => true
  | _ => false

/-- Whether no popup is dismissed after a window was asked to close. -/
def closesPopupsFirst (messages : List Message) : Bool :=
  (messages.dropWhile fun message => !isClose message).all fun message => !isPopupDone message

end WindowShell.Client
