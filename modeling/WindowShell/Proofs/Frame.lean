/-
**The frame of a shell.**

The frame is what ties surfaces, views, popups and listeners together: the role of each surface, the
surface and the popups of each view, the view and the surface of each popup, and the registry. Most
of what happens to a shell leaves its frame alone. Places, sizes, visibility, configures and messages
do not belong to it:

* `wrapping?_of_frame`: the frame decides which view or popup wraps which surface;
* `emit_frame`: a signal that opens or closes nothing leaves the frame alone;
* `followed_frame`: so does a commit.
-/

import WindowShell.Proofs.Ownership
import WindowShell.Proofs.Turn

namespace WindowShell

/-- What a view contributes to the frame. -/
def View.core (view : View) : View :=
  { surface := view.surface, popups := view.popups, listeners := view.listeners }

/-- What a popup contributes to the frame. -/
def Popup.core (popup : Popup) : Popup :=
  { view := popup.view, surface := popup.surface, listeners := popup.listeners }

theorem View.surface_of_core {first second : View} (same : first.core = second.core) :
    first.surface = second.surface := by
  injection same

theorem View.popups_of_core {first second : View} (same : first.core = second.core) :
    first.popups = second.popups := by
  injection same

theorem Popup.view_of_core {first second : Popup} (same : first.core = second.core) :
    first.view = second.view := by
  injection same

theorem Popup.surface_of_core {first second : Popup} (same : first.core = second.core) :
    first.surface = second.surface := by
  injection same

/-- A role without the state that changes. -/
def Role.bare : Role → Role
  | toplevel _ => toplevel {}
  | role => role

/-- The frame of a shell. -/
structure Frame where
  registry : Registry
  views : ViewId → Option View
  popups : PopupId → Option Popup
  roles : SurfaceId → Option Role
  lastView : UInt32
  lastPopup : UInt32

/-- A signal that opens or closes nothing. -/
def Signal.Passing : Signal → Prop
  | .destroy | .newPopup _ => False
  | _ => True

namespace Role

@[simp] theorem bare_mapToplevel (role : Role) (change : Toplevel → Toplevel) :
    (role.mapToplevel change).bare = role.bare := by
  cases role <;> rfl

@[simp] theorem bare_adopt (role : Role) (payload : Payload) :
    (role.adopt payload).bare = role.bare := by
  cases payload <;> simp [adopt]

@[simp] theorem isSome_toplevel?_bare (role : Role) :
    role.bare.toplevel?.isSome = role.toplevel?.isSome := by
  cases role <;> rfl

@[simp] theorem parent?_bare (role : Role) : role.bare.parent? = role.parent? := by
  cases role <;> rfl

end Role

namespace Surface

theorem bare_changeToplevel {surface after : Surface} {change : Toplevel → Toplevel}
    (done : surface.changeToplevel change = .ok after) : after.role.bare = surface.role.bare := by
  rw [changeToplevel_ok done, Role.bare_mapToplevel]

theorem role_ack {surface after : Surface} {raw : UInt32} (done : surface.ack raw = .ok after) :
    after.role = surface.role := by
  obtain ⟨_, _, -, rfl⟩ := ack_ok done
  rfl

theorem bare_commit {surface after : Surface} {commit : Commit} {effect : CommitEffect}
    (done : surface.commit commit = .ok (after, effect)) : after.role.bare = surface.role.bare := by
  rw [commit_role done, latchContent, Role.bare_mapToplevel, latchAck]
  split
  · rfl
  · exact Role.bare_adopt _ _

end Surface

namespace Shell

/-- The frame of a shell. -/
def frame (shell : Shell) : Frame where
  registry := shell.registry
  views id := (shell.views.get? id).map View.core
  popups id := (shell.popups.get? id).map Popup.core
  roles id := (shell.surfaces.get? id).map fun surface => surface.role.bare
  lastView := shell.desktop.lastView
  lastPopup := shell.lastPopup

theorem roles_frame (shell : Shell) (id : SurfaceId) :
    shell.frame.roles id = (shell.surfaces.get? id).map fun surface => surface.role.bare := rfl

theorem roles_putSurface (shell : Shell) (id : SurfaceId) (surface : Surface) :
    (shell.putSurface id surface).frame.roles id = some surface.role.bare := by
  rw [roles_frame, putSurface, Table.get?_insert, if_pos rfl, Option.map_some]

theorem lastView_of_frame {before after : Shell} (same : after.frame = before.frame) :
    after.desktop.lastView = before.desktop.lastView :=
  congrArg Frame.lastView same

theorem lastPopup_of_frame {before after : Shell} (same : after.frame = before.frame) :
    after.lastPopup = before.lastPopup :=
  congrArg Frame.lastPopup same

theorem view_of_frame {before after : Shell} (same : after.frame = before.frame) {id : ViewId}
    {view : View} (found : after.views.get? id = some view) :
    ∃ old, before.views.get? id = some old ∧ old.core = view.core := by
  have cores : (after.views.get? id).map View.core = (before.views.get? id).map View.core :=
    congrFun (congrArg Frame.views same) id
  rw [found, Option.map_some] at cores
  exact Option.map_eq_some_iff.mp cores.symm

theorem popup_of_frame {before after : Shell} (same : after.frame = before.frame) {id : PopupId}
    {popup : Popup} (found : after.popups.get? id = some popup) :
    ∃ old, before.popups.get? id = some old ∧ old.core = popup.core := by
  have cores : (after.popups.get? id).map Popup.core = (before.popups.get? id).map Popup.core :=
    congrFun (congrArg Frame.popups same) id
  rw [found, Option.map_some] at cores
  exact Option.map_eq_some_iff.mp cores.symm

theorem wrapping?_view (shell : Shell) (id : ViewId) :
    shell.wrapping? (.view id) = (shell.frame.views id).map View.wrapping := by
  rw [wrapping?, frame, Option.map_map]
  rfl

theorem wrapping?_popup (shell : Shell) (id : PopupId) :
    shell.wrapping? (.popup id) = (shell.frame.popups id).map Popup.wrapping := by
  rw [wrapping?, frame, Option.map_map]
  rfl

/-- The frame decides who wraps what. -/
theorem wrapping?_of_frame {before after : Shell} (same : after.frame = before.frame)
    (target : ListenerTarget) : after.wrapping? target = before.wrapping? target := by
  cases target with
  | view id => rw [wrapping?_view, wrapping?_view, same]
  | popup id => rw [wrapping?_popup, wrapping?_popup, same]

/-! ### What leaves the frame alone -/

section Alike

variable (shell : Shell)

@[simp] theorem tell_frame (event : Event) : (shell.tell event).frame = shell.frame := rfl

theorem changeView_frame {id : ViewId} {change : View → View}
    (keeps : ∀ view, (change view).core = view.core) :
    (shell.changeView id change).frame = shell.frame := by
  have views : (shell.changeView id change).frame.views = shell.frame.views := funext fun other => by
    simp only [frame, changeView, Table.get?_modify]
    split
    · rw [Option.map_map]
      exact congrArg (Option.map · _) (funext keeps)
    · rfl
  exact congrArg (fun views => { shell.frame with views }) views

theorem changePopup_frame {id : PopupId} {change : Popup → Popup}
    (keeps : ∀ popup, (change popup).core = popup.core) :
    (shell.changePopup id change).frame = shell.frame := by
  have popups : (shell.changePopup id change).frame.popups = shell.frame.popups :=
    funext fun other => by
      simp only [frame, changePopup, Table.get?_modify]
      split
      · rw [Option.map_map]
        exact congrArg (Option.map · _) (funext keeps)
      · rfl
  exact congrArg (fun popups => { shell.frame with popups }) popups

@[simp] theorem placeView_frame (id : ViewId) (position : Point) :
    (shell.placeView id position).frame = shell.frame := by
  unfold placeView
  split
  · rfl
  · split
    · rfl
    · rw [tell_frame]
      exact changeView_frame shell fun _ => rfl

/-- A surface keeps its role. -/
theorem putSurface_frame {id : SurfaceId} {before after : Surface}
    (present : shell.surfaces.get? id = some before) (same : after.role.bare = before.role.bare) :
    (shell.putSurface id after).frame = shell.frame := by
  have roles : (shell.putSurface id after).frame.roles = shell.frame.roles := funext fun other => by
    simp only [frame, putSurface, Table.get?_insert]
    split
    · next here =>
      subst here
      rw [present, Option.map_some, Option.map_some, same]
    · rfl
  exact congrArg (fun roles => { shell.frame with roles }) roles

theorem configure_frame {id : SurfaceId} {before after : Surface} {force : Bool}
    (present : shell.surfaces.get? id = some before) (same : after.role.bare = before.role.bare) :
    (shell.configure id after force).1.frame = shell.frame := by
  rcases configure_cases shell id after force with ⟨-, stored⟩ | ⟨configure, told, serials, due, stored⟩
  · rw [stored]
    exact putSurface_frame shell present same
  · obtain ⟨-, -, rfl, -⟩ := Surface.schedule_some due
    rw [stored]
    exact putSurface_frame shell present same

theorem ping_frame (id : SurfaceId) : (shell.ping id).frame = shell.frame := by
  unfold ping
  split <;> rfl

@[simp] theorem viewCommitted_frame (id : ViewId) :
    (shell.viewCommitted id).frame = shell.frame := by
  unfold viewCommitted
  split
  · rfl
  · split
    · rfl
    · split
      · simp only [tell_frame]
        split
        · exact changeView_frame shell fun _ => rfl
        · rw [placeView_frame]
          exact changeView_frame shell fun _ => rfl
      · rfl

@[simp] theorem viewMapped_frame (id : ViewId) : (shell.viewMapped id).frame = shell.frame := by
  unfold viewMapped
  split
  · rfl
  · split
    · rfl
    · simp only []
      split
      · exact changeView_frame shell fun _ => rfl
      · exact changeView_frame shell fun _ => rfl

@[simp] theorem viewUnmapped_frame (id : ViewId) : (shell.viewUnmapped id).frame = shell.frame := by
  unfold viewUnmapped
  split
  · rfl
  · split
    · exact changeView_frame shell fun _ => rfl
    · rfl

/-- A signal that opens or closes nothing leaves the frame alone. -/
theorem deliver_frame {signal : Signal} (passing : signal.Passing) (target : ListenerTarget) :
    (shell.deliver signal target).frame = shell.frame := by
  cases target with
  | view id =>
    cases signal with
    | destroy | newPopup => cases passing
    | requestMove | requestResize =>
      simp only [deliver, deliverToView]
      split <;> rfl
    | _ => simp [deliver, deliverToView]
  | popup id =>
    simp only [deliver, deliverToPopup]
    split
    · rfl
    · split
      · rfl
      · exact changePopup_frame shell fun _ => rfl
      · exact changePopup_frame shell fun _ => rfl
      · cases passing
      · cases passing
      · rfl
      · rfl
      · rfl
      · rfl

/-- A signal that opens or closes nothing leaves the frame alone, whoever hears it. -/
theorem emit_frame {signal : Signal} (passing : signal.Passing) (surface : SurfaceId) :
    (shell.emit surface signal).frame = shell.frame := by
  unfold emit
  generalize shell.registry.listeners surface signal.kind = listeners
  induction listeners generalizing shell with
  | nil => rfl
  | cons listener listeners ih =>
    rw [List.foldl_cons, ih]
    split
    · exact deliver_frame shell passing _
    · rfl

theorem followed_frame {id : SurfaceId} {before after : Surface} (effect : CommitEffect)
    (present : shell.surfaces.get? id = some before) (same : after.role.bare = before.role.bare) :
    (shell.followed id after effect).frame = shell.frame := by
  cases effect with
  | settled => exact putSurface_frame shell present same
  | needsConfigure => exact configure_frame shell present same
  | mapped =>
    exact (emit_frame _ (show Signal.Passing .map from trivial) id).trans
      (putSurface_frame shell present same)
  | unmapped =>
    exact (emit_frame _ (show Signal.Passing .unmap from trivial) id).trans
      (putSurface_frame shell present same)

end Alike

end Shell

end WindowShell
