/-
**Wishes of a client are forwarded once.**

A client may wish to have its window moved, resized, maximized or brought to fullscreen. The desktop is
told of it if the window has a view, and of a move or a resize only if the seat that the client names is
idle. Nothing else that happens is told as a wish. So the wishes that the desktop is told of in a run are
those of certain steps, each of them once and in the order of the steps.

* `Unwished`, `apply_unwished`: whatever is no wish is not told as one;
* `tellAll`, `Sound.emit_wish`: a wish goes to the view of the window, and nothing changes but the log;
* `heard?`, `Sound.apply_heard`: a step adds at most one wish to the log;
* `lastMode?`, `get?_desktopWith`: of several seats with one number the last one counts;
* `Forwards`, `Sound.heard?_eq_some_iff`: which step is heard as which event;
* `wishes_are_forwarded_once`: the wishes in the report of a scenario.
-/

import Mathlib.Data.List.Induction
import WindowShell.Proofs.Shedding

namespace WindowShell

/-- An event that tells the desktop of a wish. -/
def Event.isWish : Event → Bool
  | .beginMove _ _ | .beginResize _ _ _ | .maximizeRequested _ _ | .fullscreenRequested _ _ _ => true
  | _ => false

namespace Signal

/-- A signal that carries a wish. -/
def isWish : Signal → Bool
  | requestMove _ | requestResize _ _ | requestMaximize _ | requestFullscreen _ _ => true
  | _ => false

/-- What the desktop is told of a wish for the window of a view, if it is told of it. -/
def told? (desktop : Desktop) (view : ViewId) : Signal → Option Event
  | requestMove seat => if desktop.seatIsIdle seat then some (.beginMove seat view) else none
  | requestResize seat edges =>
    if desktop.seatIsIdle seat then some (.beginResize seat view edges) else none
  | requestMaximize maximized => some (.maximizeRequested view maximized)
  | requestFullscreen full output => some (.fullscreenRequested view full output)
  | _ => none

end Signal

/-- The wish of a step: the surface it is about, and the signal that carries it. -/
def Step.wish? : Step → Option (SurfaceId × Signal)
  | .requestMove surface seat => some (surface, .requestMove seat)
  | .requestResize surface seat edges => some (surface, .requestResize seat edges)
  | .requestMaximize surface maximized => some (surface, .requestMaximize maximized)
  | .requestFullscreen surface full output => some (surface, .requestFullscreen full output)
  | _ => none

namespace Shell

/-! ### Whatever is no wish -/

/-- From one shell to another no wish is told, and the seats stay as they are. -/
structure Unwished (before after : Shell) : Prop where
  seats : after.desktop.seats = before.desktop.seats
  wishes : after.desktop.events.filter Event.isWish = before.desktop.events.filter Event.isWish

section Unwishing

variable {shell before middle after : Shell}

namespace Unwished

theorem of_desktop (same : after.desktop = before.desktop) : Unwished before after :=
  ⟨by rw [same], by rw [same]⟩

theorem refl (shell : Shell) : Unwished shell shell := of_desktop rfl

theorem trans (early : Unwished before middle) (late : Unwished middle after) :
    Unwished before after :=
  ⟨late.seats.trans early.seats, late.wishes.trans early.wishes⟩

/-- Another event is told. -/
theorem tell (unwished : Unwished before after) {event : Event} (other : event.isWish = false) :
    Unwished before (after.tell event) := by
  refine unwished.trans ⟨rfl, ?_⟩
  show (after.desktop.events ++ [event]).filter Event.isWish = _
  rw [List.filter_append, List.filter_cons_of_neg (by rw [other]; exact Bool.false_ne_true),
    List.filter_nil, List.append_nil]

theorem placeView (id : ViewId) (position : Point) :
    Unwished shell (shell.placeView id position) := by
  unfold Shell.placeView
  split
  · exact .refl shell
  · split
    · exact .refl shell
    · exact .tell (.of_desktop (by rfl)) (by rfl)

theorem land (id : ViewId) (released : Option Point) : Unwished shell (shell.land id released) := by
  cases released with
  | none => exact .refl shell
  | some position => exact .placeView id position

theorem configure (id : SurfaceId) (surface : Surface) (force : Bool) :
    Unwished shell (shell.configure id surface force).1 := by
  rcases configure_cases shell id surface force with ⟨-, stored⟩ | ⟨_, _, _, -, stored⟩ <;>
    rw [stored] <;> exact .of_desktop rfl

theorem createView (surface : SurfaceId) : Unwished shell (shell.createView surface) := by
  have seats : (shell.createView surface).desktop.seats = shell.desktop.seats := by
    unfold Shell.createView Desktop.createView
    split
    · cases shell.desktop.refusals <;> rfl
    · rfl
  refine ⟨seats, ?_⟩
  rcases shell.createView_told surface with ⟨-, -, events⟩ | ⟨-, -, events⟩
  · rw [events]
  · rw [events, List.filter_append]
    exact List.append_nil _

theorem createPopup (view : ViewId) (surface : SurfaceId) :
    Unwished shell (shell.createPopup view surface) := by
  rcases createPopup_cases shell view surface with same | ⟨-, created⟩
  · rw [same]
    exact .refl shell
  · rw [created]
    exact .of_desktop rfl

theorem forgetPopup (id : PopupId) : Unwished shell (shell.forgetPopup id) := by
  unfold Shell.forgetPopup
  split <;> exact .of_desktop rfl

end Unwished

/-! ### Signals that carry no wish -/

theorem viewCommitted_unwished (id : ViewId) : Unwished shell (shell.viewCommitted id) := by
  cases live : shell.views.get? id with
  | none =>
    simp only [viewCommitted, live]
    exact .refl shell
  | some view =>
    cases present : shell.surfaces.get? view.surface with
    | none =>
      simp only [viewCommitted, live, present]
      exact .refl shell
    | some surface =>
      by_cases mapped : surface.mapped
      · rw [viewCommitted_of_mapped live present mapped]
        exact .tell (.tell (.trans (.of_desktop (by rfl)) (.land id _)) (by rfl)) (by rfl)
      · simp only [viewCommitted, live, present, if_neg mapped]
        exact .refl shell

theorem viewMapped_unwished (id : ViewId) : Unwished shell (shell.viewMapped id) := by
  unfold viewMapped
  split
  · exact .refl shell
  · split
    · exact .refl shell
    · simp only []
      split
      · exact .of_desktop rfl
      · exact .tell (.of_desktop (by rfl)) (by rfl)

theorem viewUnmapped_unwished (id : ViewId) : Unwished shell (shell.viewUnmapped id) := by
  unfold viewUnmapped
  split
  · exact .refl shell
  · split
    · exact .tell (.of_desktop (by rfl)) (by rfl)
    · exact .refl shell

theorem viewDestroyed_unwished (id : ViewId) : Unwished shell (shell.viewDestroyed id) := by
  have forgotten : Unwished shell (shell.forgetView id) := .of_desktop (forgetView_desktop shell id)
  unfold viewDestroyed
  split
  · exact .refl shell
  · simp only []
    split
    · exact .tell (.tell forgotten (by rfl)) (by rfl)
    · exact .tell forgotten (by rfl)

theorem deliverToView_unwished (id : ViewId) {signal : Signal} (other : signal.isWish = false) :
    Unwished shell (shell.deliverToView id signal) := by
  cases signal with
  | commit => exact viewCommitted_unwished id
  | map => exact viewMapped_unwished id
  | unmap => exact viewUnmapped_unwished id
  | destroy => exact viewDestroyed_unwished id
  | newPopup surface => exact .createPopup id surface
  | requestMove | requestResize | requestMaximize | requestFullscreen => cases other

theorem deliverToPopup_unwished (id : PopupId) (signal : Signal) :
    Unwished shell (shell.deliverToPopup id signal) := by
  unfold deliverToPopup
  split
  · exact .refl shell
  · split
    · exact .tell (.refl shell) (by rfl)
    · exact .tell (.of_desktop (by rfl)) (by rfl)
    · exact .tell (.of_desktop (by rfl)) (by rfl)
    · exact .forgetPopup id
    · exact .createPopup _ _
    all_goals exact .refl shell

theorem emit_unwished (surface : SurfaceId) {signal : Signal} (other : signal.isWish = false) :
    Unwished shell (shell.emit surface signal) := by
  unfold emit
  generalize shell.registry.listeners surface signal.kind = listeners
  induction listeners generalizing shell with
  | nil => exact .refl shell
  | cons listener listeners ih =>
    refine .trans ?_ ih
    simp only []
    split
    · cases target : listener.2 with
      | view id => exact deliverToView_unwished id other
      | popup id => exact deliverToPopup_unwished id signal
    · exact .refl shell

/-! ### Acts that are no wish -/

theorem removeSurface_unwished (id : SurfaceId) : Unwished shell (shell.removeSurface id) := by
  rcases removeSurface_cases shell id with same | ⟨surface, hidden, -, -, hides, same⟩
  · rw [same]
    exact .refl shell
  · have stored : Unwished shell (shell.putSurface id surface.hide) := .of_desktop rfl
    have out : Unwished shell hidden := by
      rcases hides with rfl | rfl
      · exact stored
      · exact stored.trans (emit_unwished id rfl)
    rw [same]
    exact (out.trans (emit_unwished id (by rfl))).trans (.of_desktop rfl)

theorem removeAll_unwished (ids : List SurfaceId) :
    Unwished shell (ids.foldl removeSurface shell) := by
  induction ids generalizing shell with
  | nil => exact .refl shell
  | cons id ids ih => exact (removeSurface_unwished id).trans ih

theorem followed_unwished (id : SurfaceId) (surface : Surface) (effect : CommitEffect) :
    Unwished shell (shell.followed id surface effect) := by
  cases effect with
  | settled => exact .of_desktop rfl
  | needsConfigure => exact .configure id surface true
  | mapped => exact .trans (.of_desktop (by rfl)) (emit_unwished id (by rfl))
  | unmapped => exact .trans (.of_desktop (by rfl)) (emit_unwished id (by rfl))

theorem changeSurface_unwished (id : SurfaceId) (act : SurfaceM Unit) :
    Unwished shell (shell.changeSurface id act).shell := by
  rcases changeSurface_stores shell id act with kept | ⟨_, stored⟩
  · rw [kept]
    exact .refl shell
  · rw [stored]
    exact .of_desktop rfl

theorem newToplevel_unwished (id : SurfaceId) : Unwished shell (shell.newToplevel id).shell := by
  rw [newToplevel_eq]
  split
  · exact .refl shell
  · next surface assigned =>
    refine .trans (.of_desktop ?_) (.createView id)
    exact ping_desktop _ id

theorem newPopup_unwished (id parent : SurfaceId) (geometry : Rectangle) :
    Unwished shell (shell.newPopup id parent geometry).shell := by
  rw [newPopup_eq]
  split
  · exact .refl shell
  · split
    · exact .refl shell
    · exact .trans (.of_desktop (by rfl)) (emit_unwished parent (by rfl))

theorem commit_unwished (id : SurfaceId) (commit : Commit) :
    Unwished shell (shell.commit id commit).shell := by
  rcases commit_cases shell id commit with ⟨fault, refused⟩ | ⟨_, after, effect, -, -, taken⟩
  · rw [refused]
    exact .refl shell
  · rw [taken]
    exact (followed_unwished id after effect).trans (emit_unwished id rfl)

theorem destroy_unwished (id : SurfaceId) : Unwished shell (shell.destroy id).shell := by
  obtain ⟨ids, gone⟩ := destroy_removes shell id
  rw [gone]
  exact removeAll_unwished ids

theorem call_unwished (id : ViewId) (call : WindowCall) : Unwished shell (shell.call id call) := by
  have carried := call_carried shell id call
  generalize shell.call id call = after at carried
  cases carried with
  | forget => exact .of_desktop (forgetView_desktop shell id)
  | miss => exact .refl shell
  | close => exact .of_desktop rfl
  | propose window => exact .configure _ _ false
  | moveResize position size window =>
    rw [moveResize_eq]
    exact .trans (.trans (.configure _ _ false) (.of_desktop (by rfl))) (.land id _)

theorem callOf_unwished (surface : SurfaceId) (call : WindowCall) :
    Unwished shell (shell.callOf surface call).shell := by
  unfold callOf
  split
  · exact .refl shell
  · exact call_unwished _ call

/-- **Whatever is no wish is not told as one.** -/
theorem apply_unwished {step : Step} (other : step.wish? = none) :
    Unwished shell (shell.apply step).shell := by
  cases step with
  | newToplevel id => exact newToplevel_unwished id
  | newPopup id parent geometry => exact newPopup_unwished id parent geometry
  | setMinSize id | setMaxSize id => exact changeSurface_unwished id _
  | ack id serial =>
    cases serial with
    | some serial => exact changeSurface_unwished id _
    | none =>
      rw [apply, ackNewest]
      split
      · exact .refl shell
      · split
        · exact .refl shell
        · exact changeSurface_unwished id _
  | commit id => exact commit_unwished id _
  | requestMove | requestResize | requestMaximize | requestFullscreen => cases other
  | destroy id => exact destroy_unwished id
  | activate | resize | moveResize | maximize | fullscreen | close | destroyView =>
    exact callOf_unwished _ _

end Unwishing

/-! ### Wishes -/

/-- Tells the desktop of several things. -/
def tellAll (shell : Shell) (events : List Event) : Shell :=
  { shell with desktop := { shell.desktop with events := shell.desktop.events ++ events } }

/-- A view is live and wraps a surface. -/
def Wraps (shell : Shell) (view : ViewId) (surface : SurfaceId) : Prop :=
  ∃ record, shell.views.get? view = some record ∧ record.surface = surface

/-- A surface is there, and it is a window. -/
def IsWindow (shell : Shell) (id : SurfaceId) : Prop :=
  ∃ surface, shell.surfaces.get? id = some surface ∧ surface.isToplevel

/-- What the desktop is told of a wish for a surface. -/
def told? (shell : Shell) (id : SurfaceId) (signal : Signal) : Option Event :=
  (shell.viewOf? id).bind fun view => signal.told? shell.desktop view

section Wishing

variable {shell : Shell} {id : SurfaceId} {signal : Signal} {step : Step}

@[simp] theorem tellAll_nil (shell : Shell) : shell.tellAll [] = shell := by
  rw [tellAll, List.append_nil]

theorem deliverToView_wish (wish : signal.isWish) (view : ViewId) :
    shell.deliverToView view signal = shell.tellAll (signal.told? shell.desktop view).toList := by
  cases signal with
  | requestMove seat =>
    rw [deliverToView, Signal.told?]
    split
    · rfl
    · rw [Option.toList_none, tellAll_nil]
  | requestResize seat edges =>
    rw [deliverToView, Signal.told?]
    split
    · rfl
    · rw [Option.toList_none, tellAll_nil]
  | requestMaximize | requestFullscreen => rfl
  | _ => cases wish

/-- **A wish goes to the view of the window**, and nothing changes but the log. -/
theorem Sound.emit_wish (sound : shell.Sound) (wish : signal.isWish) (id : SurfaceId) :
    shell.emit id signal = shell.tellAll (shell.told? id signal).toList := by
  cases found : shell.viewOf? id with
  | some view =>
    obtain ⟨record, live, rfl⟩ := viewOf?_live found
    rw [sound.emit_view live, deliverToView_wish wish, told?, found, Option.bind_some]
  | none =>
    rw [told?, found, Option.bind_none, Option.toList_none, tellAll_nil]
    rcases followed_or_unfollowed shell id with ⟨target, wrapping, there, rfl⟩ | alone
    · cases target with
      | view view =>
        obtain ⟨record, live, rfl⟩ := Option.map_eq_some_iff.mp there
        exact absurd rfl (viewOf?_eq_none_iff.mp found view record live)
      | popup popup =>
        obtain ⟨record, present, rfl⟩ := Option.map_eq_some_iff.mp there
        rw [sound.emit_followed there, deliver, deliverToPopup, present]
        cases signal with
        | requestMove | requestResize | requestMaximize | requestFullscreen => rfl
        | _ => cases wish
    · exact emit_unfollowed sound.held alone signal

/-- A wish for a window is carried out by telling the desktop, and any other one is refused. -/
theorem Sound.apply_wish (sound : shell.Sound) (wish : step.wish? = some (id, signal)) :
    (shell.IsWindow id ∧ shell.apply step = (shell.tellAll (shell.told? id signal).toList).accept) ∨
      ¬ shell.IsWindow id ∧ ∃ fault, shell.apply step = shell.reject fault := by
  have forwards : shell.apply step = shell.forward id signal ∧ signal.isWish := by
    cases step <;> cases wish <;> exact ⟨rfl, rfl⟩
  obtain ⟨forwards, carries⟩ := forwards
  rw [forwards]
  cases present : shell.surfaces.get? id with
  | none =>
    refine .inr ⟨?_, _, forward_of_absent present signal⟩
    rintro ⟨surface, found, -⟩
    rw [present] at found
    cases found
  | some surface =>
    rw [forward_of_present present]
    by_cases toplevel : surface.isToplevel
    · refine .inl ⟨⟨surface, present, toplevel⟩, ?_⟩
      rw [if_pos toplevel, sound.emit_wish carries]
    · refine .inr ⟨?_, _, if_neg toplevel⟩
      rintro ⟨other, found, fits⟩
      obtain rfl := Option.some.inj (present.symm.trans found)
      exact toplevel fits

/-- What the desktop is told of a step as a wish. -/
def heard? (shell : Shell) (step : Step) : Option Event :=
  step.wish?.bind fun wish =>
    if (shell.apply step).fault = none then shell.told? wish.1 wish.2 else none

theorem isWish_of_told? {desktop : Desktop} {view : ViewId} {event : Event}
    (told : signal.told? desktop view = some event) : event.isWish := by
  unfold Signal.told? at told
  split at told
  · split at told
    · exact Option.some.inj told ▸ rfl
    · cases told
  · split at told
    · exact Option.some.inj told ▸ rfl
    · cases told
  · exact Option.some.inj told ▸ rfl
  · exact Option.some.inj told ▸ rfl
  · cases told

theorem filter_told? (shell : Shell) (id : SurfaceId) (signal : Signal) :
    (shell.told? id signal).toList.filter Event.isWish = (shell.told? id signal).toList := by
  cases told : shell.told? id signal with
  | none => rfl
  | some event =>
    obtain ⟨view, -, told⟩ := Option.bind_eq_some_iff.mp told
    rw [Option.toList_some, List.filter_cons_of_pos (isWish_of_told? told), List.filter_nil]

/-- **A step adds at most one wish to the log**, and it leaves the seats as they are. -/
theorem Sound.apply_heard (sound : shell.Sound) (step : Step) :
    (shell.apply step).shell.desktop.seats = shell.desktop.seats ∧
      (shell.apply step).shell.desktop.events.filter Event.isWish =
        shell.desktop.events.filter Event.isWish ++ (shell.heard? step).toList := by
  cases wish : step.wish? with
  | none =>
    obtain ⟨seats, wishes⟩ : Unwished shell (shell.apply step).shell := apply_unwished wish
    rw [heard?, wish, Option.bind_none, Option.toList_none, List.append_nil]
    exact ⟨seats, wishes⟩
  | some found =>
    rcases sound.apply_wish wish with ⟨-, told⟩ | ⟨-, fault, refused⟩
    · have done : (shell.apply step).fault = none := by rw [told]; rfl
      rw [heard?, wish, Option.bind_some, if_pos done, told]
      refine ⟨rfl, ?_⟩
      show (shell.desktop.events ++ _).filter Event.isWish = _
      rw [List.filter_append, filter_told?]
    · have failed : (shell.apply step).fault ≠ none := by
        rw [refused]
        exact Option.some_ne_none fault
      rw [heard?, wish, Option.bind_some, if_neg failed, refused, Option.toList_none,
        List.append_nil]
      exact ⟨rfl, rfl⟩

/-- A wish is heard if it is no error and the desktop is told of it for the view of its window. -/
theorem Sound.heard?_of_wish (sound : shell.Sound) (wish : step.wish? = some (id, signal))
    {event : Event} :
    shell.heard? step = some event ↔ (shell.apply step).fault = none ∧
      ∃ view, shell.Wraps view id ∧ signal.told? shell.desktop view = some event := by
  rw [heard?, wish, Option.bind_some, Option.ite_none_right_eq_some, told?,
    Option.bind_eq_some_iff]
  refine and_congr_right fun _ => exists_congr fun view => and_congr_left fun _ => ?_
  refine ⟨viewOf?_live, ?_⟩
  rintro ⟨record, live, rfl⟩
  exact sound.viewOf?_eq live

end Wishing

/-! ### What is forwarded -/

/-- The mode of a seat in a list: of several with its number the last one counts. -/
def lastMode? (seats : List Seat) (id : SeatId) : Option SeatMode :=
  (seats.filter fun seat => seat.id = id).getLast?.map Seat.mode

/-- **A step is forwarded as an event**: the client's wish is no error, its window has a view, and the
seat is idle if there is one. -/
inductive Forwards (seats : List Seat) (shell : Shell) : Step → Event → Prop
  | move {surface : SurfaceId} {seat : SeatId} {view : ViewId}
      (succeeds : (shell.apply (.requestMove surface seat)).fault = none)
      (wraps : shell.Wraps view surface) (idle : lastMode? seats seat = some .passthrough) :
      Forwards seats shell (.requestMove surface seat) (.beginMove seat view)
  | resize {surface : SurfaceId} {seat : SeatId} {edges : Edges} {view : ViewId}
      (succeeds : (shell.apply (.requestResize surface seat edges)).fault = none)
      (wraps : shell.Wraps view surface) (idle : lastMode? seats seat = some .passthrough) :
      Forwards seats shell (.requestResize surface seat edges) (.beginResize seat view edges)
  | maximize {surface : SurfaceId} {maximized : Bool} {view : ViewId}
      (succeeds : (shell.apply (.requestMaximize surface maximized)).fault = none)
      (wraps : shell.Wraps view surface) :
      Forwards seats shell (.requestMaximize surface maximized) (.maximizeRequested view maximized)
  | fullscreen {surface : SurfaceId} {full : Bool} {output : Option OutputId} {view : ViewId}
      (succeeds : (shell.apply (.requestFullscreen surface full output)).fault = none)
      (wraps : shell.Wraps view surface) :
      Forwards seats shell (.requestFullscreen surface full output)
        (.fullscreenRequested view full output)

section Forwarding

variable {shell : Shell} {seats : List Seat} {step : Step} {event : Event}

/-- The desktop knows each seat by its last mode. -/
theorem get?_desktopWith (seats : List Seat) (id : SeatId) :
    (Scenario.desktopWith seats).seats.get? id = lastMode? seats id := by
  induction seats using List.reverseRecOn with
  | nil => rfl
  | append_singleton seats seat ih =>
    have last : (Scenario.desktopWith (seats ++ [seat])).seats =
        (Scenario.desktopWith seats).seats.insert seat.id seat.mode := by
      simp only [Scenario.desktopWith, Table.ofList, List.map_append, List.foldl_append]
      rfl
    rw [last, Table.get?_insert, ih, lastMode?, lastMode?, List.filter_append]
    by_cases same : seat.id = id
    · simp [same]
    · simp [same, Ne.symm same]

/-- **What is forwarded is heard**, if the desktop knows the seats by their last modes. -/
theorem Sound.heard?_eq_some_iff (sound : shell.Sound)
    (known : ∀ id, shell.desktop.seats.get? id = lastMode? seats id) :
    shell.heard? step = some event ↔ Forwards seats shell step event := by
  have idle : ∀ id, shell.desktop.seatIsIdle id ↔ lastMode? seats id = some .passthrough :=
    fun id => by rw [Desktop.seatIsIdle, known, decide_eq_true_iff]
  constructor
  · intro heard
    cases step with
    | requestMove surface seat =>
      obtain ⟨done, view, wraps, told⟩ := (sound.heard?_of_wish rfl).mp heard
      obtain ⟨ready, ⟨⟩⟩ := Option.ite_none_right_eq_some.mp told
      exact .move done wraps ((idle seat).mp ready)
    | requestResize surface seat edges =>
      obtain ⟨done, view, wraps, told⟩ := (sound.heard?_of_wish rfl).mp heard
      obtain ⟨ready, ⟨⟩⟩ := Option.ite_none_right_eq_some.mp told
      exact .resize done wraps ((idle seat).mp ready)
    | requestMaximize surface maximized =>
      obtain ⟨done, view, wraps, ⟨⟩⟩ := (sound.heard?_of_wish rfl).mp heard
      exact .maximize done wraps
    | requestFullscreen surface full output =>
      obtain ⟨done, view, wraps, ⟨⟩⟩ := (sound.heard?_of_wish rfl).mp heard
      exact .fullscreen done wraps
    | _ => cases heard
  · intro forwards
    cases forwards with
    | move done wraps ready =>
      refine (sound.heard?_of_wish rfl).mpr ⟨done, _, wraps, ?_⟩
      exact if_pos ((idle _).mpr ready)
    | resize done wraps ready =>
      refine (sound.heard?_of_wish rfl).mpr ⟨done, _, wraps, ?_⟩
      exact if_pos ((idle _).mpr ready)
    | maximize done wraps => exact (sound.heard?_of_wish rfl).mpr ⟨done, _, wraps, rfl⟩
    | fullscreen done wraps => exact (sound.heard?_of_wish rfl).mpr ⟨done, _, wraps, rfl⟩

end Forwarding

end Shell

namespace Scenario

open Shell

variable {scenario : Scenario} {settings : Settings} {place : Nat} {step : Step}

/-- The shell before the step at a place. -/
def before (scenario : Scenario) (settings : Settings) (place : Nat) : Shell :=
  ((scenario.start settings).runFrom 0 (scenario.steps.take place)).1

theorem before_reached (scenario : Scenario) (settings : Settings) (place : Nat) :
    Reached (0 + (scenario.steps.take place).length) (scenario.before settings place) :=
  (Reached.start scenario settings).runFrom 0 _

theorem before_succ (there : scenario.steps[place]? = some step) :
    scenario.before settings (place + 1) = ((scenario.before settings place).apply step).shell := by
  rw [before, before, runFrom_fst, runFrom_fst, List.take_add_one, there, Option.toList_some,
    List.foldl_append]
  rfl

theorem replay_events (scenario : Scenario) (settings : Settings) :
    (scenario.replay settings).events =
      (scenario.before settings scenario.steps.length).desktop.events := by
  rw [before, List.take_length]
  rfl

/-- **What the first steps of a scenario are forwarded as**: events in a log, each with the place of
the step that it tells of. -/
structure Forwarded (scenario : Scenario) (settings : Settings) (count : Nat) (log : List Event)
    (forwarded : List (Nat × Event)) : Prop where
  /-- They are the wishes in the log. -/
  wishes : log.filter Event.isWish = forwarded.map Prod.snd
  /-- They come in the order of the steps, and no two tell of one step. -/
  inOrder : forwarded.Pairwise fun early late => early.1 < late.1
  /-- They are what the steps are forwarded as. -/
  exactly : ∀ place event, (place, event) ∈ forwarded ↔ place < count ∧
    ∃ step, scenario.steps[place]? = some step ∧
      Forwards scenario.seats (scenario.before settings place) step event

/-- Nothing changes the seats of a scenario. -/
theorem before_seats (scenario : Scenario) (settings : Settings) :
    (scenario.before settings place).desktop.seats = (desktopWith scenario.seats).seats := by
  induction place with
  | zero => rfl
  | succ place ih =>
    cases there : scenario.steps[place]? with
    | some step =>
      rw [before_succ there, ((scenario.before_reached settings place).sound.apply_heard step).1, ih]
    | none =>
      rw [← ih, before, before, List.take_add_one, there, Option.toList_none, List.append_nil]

/-- One more step is forwarded as what is heard of it. -/
theorem Forwarded.succ {forwarded : List (Nat × Event)}
    (known : scenario.Forwarded settings place (scenario.before settings place).desktop.events
      forwarded) (there : scenario.steps[place]? = some step) :
    scenario.Forwarded settings (place + 1) (scenario.before settings (place + 1)).desktop.events
      (forwarded ++ ((scenario.before settings place).heard? step).toList.map (place, ·)) := by
  have sound := (scenario.before_reached settings place).sound
  have seats : ∀ id, (scenario.before settings place).desktop.seats.get? id =
      lastMode? scenario.seats id := fun id => by rw [before_seats, get?_desktopWith]
  refine ⟨?_, ?_, fun other event => ?_⟩
  · rw [before_succ there, (sound.apply_heard step).2, known.wishes, List.map_append, List.map_map]
    exact congrArg _ (List.map_id _).symm
  · refine List.pairwise_append.mpr ⟨known.inOrder, ?_, ?_⟩
    · cases (scenario.before settings place).heard? step with
      | none => exact .nil
      | some event => exact List.pairwise_singleton _ _
    · rintro ⟨early, told⟩ earlier late later
      obtain ⟨event, -, rfl⟩ := List.mem_map.mp later
      exact ((known.exactly early told).mp earlier).1
  · rw [List.mem_append, known.exactly, List.mem_map, Nat.lt_succ_iff_lt_or_eq, or_and_right]
    refine or_congr Iff.rfl ⟨?_, ?_⟩
    · rintro ⟨told, heard, same⟩
      obtain ⟨rfl, rfl⟩ := Prod.mk.inj same
      exact ⟨rfl, step, there, (sound.heard?_eq_some_iff seats).mp (Option.mem_toList.mp heard)⟩
    · rintro ⟨rfl, found, stored, forwards⟩
      obtain rfl := Option.some.inj (there.symm.trans stored)
      exact ⟨event, Option.mem_toList.mpr ((sound.heard?_eq_some_iff seats).mpr forwards), rfl⟩

theorem exists_forwarded (scenario : Scenario) (settings : Settings)
    (few : place ≤ scenario.steps.length) :
    ∃ forwarded, scenario.Forwarded settings place
      (scenario.before settings place).desktop.events forwarded := by
  induction place with
  | zero =>
    refine ⟨[], rfl, .nil, fun place event => ⟨fun member => ?_, fun ⟨early, _⟩ => ?_⟩⟩
    · cases member
    · cases early
  | succ place ih =>
    obtain ⟨forwarded, known⟩ := ih (Nat.le_of_succ_le few)
    exact ⟨_, known.succ (List.getElem?_eq_getElem few)⟩

/-- **Wishes of a client are forwarded once.** The wishes in the report of a scenario are the events
that its steps are forwarded as, each of them once and in the order of the steps. A step with a wish is
no error exactly if its surface is a window, and nothing in the shell changes but the log of events. -/
theorem wishes_are_forwarded_once (scenario : Scenario) (settings : Settings) :
    (∃ forwarded, scenario.Forwarded settings scenario.steps.length
        (scenario.replay settings).events forwarded) ∧
      ∀ place step id signal, scenario.steps[place]? = some step →
        step.wish? = some (id, signal) →
        (((scenario.before settings place).apply step).fault = none ↔
            (scenario.before settings place).IsWindow id) ∧
          ∃ events, ((scenario.before settings place).apply step).shell =
            (scenario.before settings place).tellAll events := by
  refine ⟨?_, fun place step id signal there wish => ?_⟩
  · rw [replay_events]
    exact exists_forwarded scenario settings (Nat.le_refl _)
  · rcases (scenario.before_reached settings place).sound.apply_wish wish with
      ⟨window, told⟩ | ⟨other, fault, refused⟩
    · rw [told]
      exact ⟨iff_of_true rfl window, _, rfl⟩
    · rw [refused]
      exact ⟨iff_of_false (Option.some_ne_none fault) other, [], (tellAll_nil _).symm⟩

/-- Two seats, listed twice each, and a client that wishes for more than it can have: a resize with a
busy seat, a maximized popup, and fullscreen for a window that the desktop forgot. -/
def wishfulClient : Scenario where
  seats :=
    [ { id := ⟨1⟩, mode := .rotate }, { id := ⟨2⟩ }, { id := ⟨1⟩ }, { id := ⟨2⟩, mode := .move } ]
  steps :=
    [ .newToplevel ⟨5⟩, .newPopup ⟨6⟩ ⟨5⟩ { size := { width := 9, height := 9 } },
      .requestMove ⟨5⟩ ⟨1⟩, .requestResize ⟨5⟩ ⟨2⟩ {}, .requestMaximize ⟨6⟩ true,
      .requestMaximize ⟨5⟩ true, .destroyView ⟨5⟩, .requestFullscreen ⟨5⟩ true none ]

/-- The desktop is told of the move and of the maximized window. The popup is refused; the forgotten
window is not. -/
theorem wishes_are_forwarded_once_wishfulClient :
    (∃ forwarded, wishfulClient.Forwarded {} 8 (wishfulClient.replay {}).events forwarded ∧
        forwarded.map Prod.snd = [.beginMove ⟨1⟩ ⟨1⟩, .maximizeRequested ⟨1⟩ true]) ∧
      ¬ (wishfulClient.before {} 4).IsWindow ⟨6⟩ ∧ (wishfulClient.before {} 7).IsWindow ⟨5⟩ := by
  obtain ⟨⟨forwarded, known⟩, wishes⟩ := wishes_are_forwarded_once wishfulClient {}
  have told : (wishfulClient.replay {}).events.filter Event.isWish =
      [.beginMove ⟨1⟩ ⟨1⟩, .maximizeRequested ⟨1⟩ true] := by decide
  have refused := (wishes 4 _ ⟨6⟩ (.requestMaximize true) rfl rfl).1
  have accepted := (wishes 7 _ ⟨5⟩ (.requestFullscreen true none) rfl rfl).1
  refine ⟨⟨forwarded, known, known.wishes.symm.trans told⟩, fun window => ?_, accepted.mp ?_⟩
  · exact absurd (refused.mpr window) (by decide)
  · decide

end Scenario

end WindowShell
