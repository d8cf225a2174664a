/-
**Signals of a surface.**

The shell reacts to a surface through signals: a commit, a change of visibility, its destruction, a
popup opened on it, and the wishes of its client. A listener asks for one kind of signal; the signal
itself also carries what the kind calls for.
-/

import WindowShell.Edges
import WindowShell.Identifier

namespace WindowShell

/-- A kind of signal to listen for. -/
inductive SignalKind
  | commit
  | destroy
  | map
  | unmap
  | newPopup
  | requestMove
  | requestResize
  | requestMaximize
  | requestFullscreen
deriving DecidableEq, Repr

/-- A signal with what it carries. -/
inductive Signal
  | commit
  /-- The surface is about to go away. -/
  | destroy
  | map
  | unmap
  | newPopup (popup : SurfaceId)
  | requestMove (seat : SeatId)
  | requestResize (seat : SeatId) (edges : Edges)
  | requestMaximize (maximized : Bool)
  | requestFullscreen (fullscreen : Bool) (output : Option OutputId)
deriving DecidableEq, Repr

/-- The kind of a signal. -/
def Signal.kind : Signal → SignalKind
  | commit => .commit
  | destroy => .destroy
  | map => .map
  | unmap => .unmap
  | newPopup _ => .newPopup
  | requestMove _ => .requestMove
  | requestResize _ _ => .requestResize
  | requestMaximize _ => .requestMaximize
  | requestFullscreen _ _ => .requestFullscreen

/-- Who handles a signal. -/
inductive ListenerTarget
  | view (view : ViewId)
  | popup (popup : PopupId)
deriving DecidableEq, Repr

/-- The signals the view of a window listens to, in the order in which it registers for them. -/
def viewSignals : List SignalKind :=
  [.commit, .destroy, .newPopup, .map, .unmap, .requestMove, .requestResize, .requestMaximize,
    .requestFullscreen]

/-- The signals a popup listens to, in the order in which it registers for them. -/
def popupSignals : List SignalKind := [.destroy, .map, .unmap, .newPopup, .commit]

end WindowShell
