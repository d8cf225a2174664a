/-
**What the desktop is told of an act.**

The desktop hears of every view that an act creates, maps, moves, resizes or destroys, and of no other.
What it is told of a view is always a stretch of the life of that view, from the stage where the view was
before the act to the one where it is after it. A popup tells of its damage only while the view at its
root is live, because popups are forgotten with their view:

* `Narrates`: what is told of an operation is true of every view;
* `emit_narrates`: so it is with every signal, if the view and the surface were in step;
* `perform_narrates`, `Reached.apply_narrates`, `Reached.runFrom_narrates`: so it is with every act,
  every step and every run;
* `Scenario.views_live_in_order`: hence the life of every view in the log of a scenario.
-/

import WindowShell.Proofs.Life
import WindowShell.Proofs.Visibility

namespace WindowShell

/-- What the desktop should know of a view. -/
def View.picture (view : View) : Picture :=
  { position := view.position, size := view.size, mapped := view.mapped }

namespace Shell

/-- How far a view has come. -/
def stageOf (shell : Shell) (id : ViewId) : Stage :=
  match shell.faceOf? id with
  | some face => .live face.picture
  | none => if shell.desktop.lastView.toNat < id.val.toNat then .unborn else .gone

/-- **What is told of an operation is true of every view.** -/
def Narrates (before after : Shell) : Prop :=
  ∃ more, after.desktop.events = before.desktop.events ++ more ∧
    ∀ id, Passage id (before.stageOf id) more (after.stageOf id)

section Stages

variable {before after shell : Shell} {id : ViewId} {view new : View}

theorem stageOf_congr (face : after.faceOf? id = before.faceOf? id)
    (last : after.desktop.lastView = before.desktop.lastView) :
    after.stageOf id = before.stageOf id := by
  rw [stageOf, face, last, stageOf]

theorem stageOf_live (found : shell.views.get? id = some view) :
    shell.stageOf id = .live view.picture := by
  rw [stageOf, faceOf?, found]
  rfl

namespace Narrates

variable {first second third : Shell} {more : List Event}

theorem refl (shell : Shell) : Narrates shell shell :=
  ⟨[], (List.append_nil _).symm, fun _ => .refl _⟩

theorem trans (early : Narrates first second) (late : Narrates second third) :
    Narrates first third := by
  obtain ⟨told, same, passages⟩ := early
  obtain ⟨more, also, onward⟩ := late
  refine ⟨told ++ more, ?_, fun id => (passages id).trans (onward id)⟩
  rw [also, same, List.append_assoc]

/-- Nothing happens to a view, and nothing is told. -/
theorem quiet (faces : ∀ id, second.faceOf? id = first.faceOf? id)
    (last : second.desktop.lastView = first.desktop.lastView)
    (events : second.desktop.events = first.desktop.events) : Narrates first second := by
  refine ⟨[], events.trans (List.append_nil _).symm, fun id => ?_⟩
  rw [stageOf_congr (faces id) last]
  exact .refl _

theorem of_eq (views : second.views = first.views) (desktop : second.desktop = first.desktop) :
    Narrates first second :=
  .quiet (fun id => by rw [faceOf?, views, faceOf?]) (by rw [desktop]) (by rw [desktop])

/-- Something happens to one view, and it is told. -/
theorem about (id : ViewId) (more : List Event)
    (events : second.desktop.events = first.desktop.events ++ more) (own : ∀ event ∈ more, event.view = id)
    (others : ∀ other, other ≠ id → second.stageOf other = first.stageOf other)
    (passage : Passage id (first.stageOf id) more (second.stageOf id)) : Narrates first second := by
  refine ⟨more, events, fun other => ?_⟩
  by_cases same : other = id
  · rw [same]
    exact passage
  · rw [others other same]
    refine .elsewhere _ fun event member here => same ?_
    rw [← here, own event member]

/-- A live view is changed, and it is told. -/
theorem of_view (live : first.views.get? id = some view)
    (kept : second.views.get? id = some new)
    (others : ∀ other, other ≠ id → second.faceOf? other = first.faceOf? other)
    (last : second.desktop.lastView = first.desktop.lastView)
    (events : second.desktop.events = first.desktop.events ++ more)
    (own : ∀ event ∈ more, event.view = id)
    (passage : Passage id (.live view.picture) more (.live new.picture)) :
    Narrates first second := by
  refine .about id _ events own (fun other differ => stageOf_congr (others other differ) last) ?_
  rw [stageOf_live live, stageOf_live kept]
  exact passage

/-- A live view is noticed. -/
theorem tell {event : Event} (live : shell.views.get? event.view = some view)
    (passing : event.Passing) : Narrates shell (shell.tell event) := by
  refine .of_view live live (fun _ _ => rfl) rfl rfl ?_ (.single (.noticed view.picture rfl passing))
  rintro told member
  rw [List.mem_singleton.mp member]

/-- A live view is changed, and one event tells of it. -/
theorem changeView (live : shell.views.get? id = some view) {change : View → View} {event : Event}
    (own : event.view = id) (leads : Leads id (.live view.picture) [event]
      (.live (change view).picture)) :
    Narrates shell ((shell.changeView id change).tell event) := by
  refine .of_view live (changeView_view live change)
    (fun other differ => faceOf?_changeView_of_ne shell differ change) rfl rfl ?_ (.single leads)
  rintro told member
  rw [List.mem_singleton.mp member, own]

end Narrates

/-! ### Views -/

theorem land_cases (live : shell.views.get? id = some view) (released : Option Point) :
    shell.land id released = shell ∧ released.getD view.position = view.position ∨
      ∃ position, position ≠ view.position ∧ released = some position ∧
        shell.land id released =
          (shell.changeView id fun view => { view with position }).tell (.moved id position) := by
  cases released with
  | none => exact .inl ⟨rfl, rfl⟩
  | some position =>
    rw [land, Option.elim_some, placeView, live]
    by_cases same : view.position = position
    · exact .inl ⟨if_pos same, same.symm⟩
    · exact .inr ⟨position, Ne.symm same, rfl, if_neg same⟩

theorem land_narrates (live : shell.views.get? id = some view) (released : Option Point) :
    Narrates shell (shell.land id released) := by
  rcases land_cases live released with ⟨rests, -⟩ | ⟨position, away, -, moves⟩
  · rw [rests]
    exact .refl shell
  · rw [moves]
    exact .changeView live rfl (.moved away)

theorem viewMapped_narrates (live : shell.views.get? id = some view)
    (hidden : view.mapped = false) : Narrates shell (shell.viewMapped id) := by
  cases present : shell.surfaces.get? view.surface with
  | none =>
    simp only [viewMapped, live, present]
    exact .refl shell
  | some surface =>
    rw [viewMapped_of_hidden live present hidden]
    exact .changeView live rfl (.mapped hidden _)

theorem viewUnmapped_narrates (live : shell.views.get? id = some view) :
    Narrates shell (shell.viewUnmapped id) := by
  cases visible : view.mapped with
  | true =>
    rw [viewUnmapped_of_visible live visible]
    exact .changeView live rfl (.unmapped visible)
  | false =>
    simp only [viewUnmapped, live, visible]
    exact .refl shell

/-- A view that follows a commit is moved first, and then damaged and resized. -/
theorem viewCommitted_narrates (live : shell.views.get? id = some view)
    (visible : ∀ surface, shell.surfaces.get? view.surface = some surface → surface.mapped →
      view.mapped = true) : Narrates shell (shell.viewCommitted id) := by
  cases present : shell.surfaces.get? view.surface with
  | none =>
    simp only [viewCommitted, live, present]
    exact .refl shell
  | some surface =>
    by_cases mapped : surface.mapped
    · have seen : view.mapped = true := visible surface present mapped
      have changed := changeView_view live fun record =>
        { record with
          size := surface.contentSize
          negotiation := (view.negotiation.reconcile surface.configureSerial view.position
            surface.contentSize).1 }
      rw [viewCommitted_of_mapped live present mapped]
      rcases land_cases changed (view.negotiation.reconcile surface.configureSerial view.position
        surface.contentSize).2 with ⟨rests, -⟩ | ⟨position, away, -, moves⟩
      · rw [rests]
        refine .of_view live changed (fun other differ => ?_) rfl (List.append_assoc _ [_] [_]) ?_
          (.single (.resized seen surface.contentSize))
        · exact faceOf?_changeView_of_ne shell differ _
        · simp [Event.view]
      · rw [moves]
        refine .of_view live (changeView_view changed _) (fun other differ => ?_) rfl ?_ ?_
          ((Passage.single (.moved away)).trans (.single (.resized seen surface.contentSize)))
        · exact (faceOf?_changeView_of_ne _ differ _).trans (faceOf?_changeView_of_ne shell differ _)
        · simp [tell, Desktop.tell, Shell.changeView]
        · simp [Event.view]
    · rw [viewCommitted_of_hidden live present mapped]
      exact .refl shell

/-! ### Views that come and go -/

/-- The views were numbered in order. -/
def Numbered (shell : Shell) : Prop :=
  ∀ id view, shell.views.get? id = some view → id.val.toNat ≤ shell.desktop.lastView.toNat

/-- A view that is forgotten is gone, and every other view is where it was. -/
theorem stageOf_forgetView (numbered : shell.Numbered) (live : shell.views.get? id = some view)
    (other : ViewId) :
    (shell.forgetView id).stageOf other = if other = id then .gone else shell.stageOf other := by
  by_cases same : other = id
  · subst same
    rw [if_pos rfl, stageOf, faceOf?_forgetView, if_pos rfl, forgetView_desktop]
    exact if_neg (Nat.not_lt.mpr (numbered other view live))
  · rw [if_neg same, stageOf, faceOf?_forgetView, if_neg same, forgetView_desktop, stageOf]

theorem forgetView_narrates (numbered : shell.Numbered) (id : ViewId) :
    Narrates shell (shell.forgetView id) := by
  cases live : shell.views.get? id with
  | none =>
    rw [forgetView_of_none shell live]
    exact .refl shell
  | some view =>
    have stages := stageOf_forgetView numbered live
    refine .about id [] ?_ (by simp) (fun other differ => ?_) ?_
    · rw [forgetView_desktop, List.append_nil]
    · rw [stages, if_neg differ]
    · rw [stages, if_pos rfl, stageOf_live live]
      exact .single (.forgotten view.picture)

/-- A view that goes away with its surface is unmapped first if it was visible. -/
theorem viewDestroyed_narrates (numbered : shell.Numbered) (live : shell.views.get? id = some view) :
    Narrates shell (shell.viewDestroyed id) := by
  have stages := stageOf_forgetView numbered live
  have others : ∀ other, other ≠ id → (shell.forgetView id).stageOf other = shell.stageOf other :=
    fun other differ => (stages other).trans (if_neg differ)
  have gone : (shell.forgetView id).stageOf id = .gone := (stages id).trans (if_pos rfl)
  have events : (shell.forgetView id).desktop.events = shell.desktop.events := by
    rw [forgetView_desktop]
  cases visible : view.mapped with
  | true =>
    have passage : Passage id (shell.stageOf id) [.unmapped id, .destroyed id] .gone := by
      rw [stageOf_live live]
      exact (Passage.single (.unmapped visible)).trans (.single (.destroyed rfl))
    simp only [viewDestroyed, live, visible, if_true]
    refine .about id _ ?_ (by simp [Event.view]) others (gone.symm ▸ passage)
    simp [tell, Desktop.tell, events]
  | false =>
    have passage : Passage id (shell.stageOf id) [.destroyed id] .gone := by
      rw [stageOf_live live]
      exact .single (.destroyed visible)
    simp only [viewDestroyed, live, visible]
    refine .about id _ ?_ (by simp [Event.view]) others (gone.symm ▸ passage)
    exact congrArg (· ++ [.destroyed id]) events

theorem stageOf_absent (absent : shell.views.get? id = none) :
    shell.stageOf id =
      if shell.desktop.lastView.toNat < id.val.toNat then .unborn else .gone := by
  rw [stageOf, faceOf?, absent]
  rfl

/-- A view is created with a number that no view had before, as long as the count does not wrap. -/
theorem createView_narrates {count : Nat} (numbered : shell.Numbered)
    (few : shell.desktop.lastView.toNat ≤ count) (small : count + 1 < 2 ^ 32)
    (surface : SurfaceId) : Narrates shell (shell.createView surface) := by
  rcases createView_told shell surface with
    ⟨views, last, events⟩ | ⟨⟨listeners, views⟩, last, events⟩
  · exact .quiet (fun id => by rw [faceOf?, views, faceOf?]) last events
  have next : (shell.desktop.lastView + 1).toNat = shell.desktop.lastView.toNat + 1 :=
    toNat_succ few small
  have unused : shell.views.get? shell.nextView = none := by
    by_contra used
    obtain ⟨view, found⟩ := Option.ne_none_iff_exists'.mp used
    have below : (shell.desktop.lastView + 1).toNat ≤ shell.desktop.lastView.toNat :=
      numbered _ view found
    omega
  refine .about shell.nextView _ events (by simp [Event.view]) (fun other differ => ?_) ?_
  · have kept : (shell.createView surface).views.get? other = shell.views.get? other := by
      rw [views, Table.get?_insert, if_neg differ]
    cases found : shell.views.get? other with
    | some view => rw [stageOf_live found, stageOf_live (kept.trans found)]
    | none =>
      have apart : other.val.toNat ≠ (shell.desktop.lastView + 1).toNat := fun same =>
        differ (congrArg ViewId.mk (UInt32.toNat_inj.mp same))
      rw [stageOf_absent found, stageOf_absent (kept.trans found), last, next]
      by_cases later : shell.desktop.lastView.toNat < other.val.toNat
      · rw [if_pos later, if_pos (by omega)]
      · rw [if_neg later, if_neg (by omega)]
  · have born : (shell.createView surface).views.get? shell.nextView =
        some { surface, listeners } := by
      rw [views, Table.get?_insert, if_pos rfl]
    have early : shell.desktop.lastView.toNat < shell.nextView.val.toNat := by
      show shell.desktop.lastView.toNat < (shell.desktop.lastView + 1).toNat
      omega
    rw [stageOf_absent unused, if_pos early, stageOf_live born]
    exact .single .created

/-! ### Signals -/

/-- Views and popups are sound and linked, and the counts are far from wrapping around. -/
structure Whole (count : Nat) (shell : Shell) : Prop where
  sound : shell.Sound
  linked : Linked count shell
  small : count + 1 < 2 ^ 32

theorem Whole.congr {count : Nat} (whole : Whole count before) (same : after.frame = before.frame) :
    Whole count after :=
  ⟨whole.sound.congr same, whole.linked.congr same, whole.small⟩

theorem Whole.moves {count : Nat} (whole : Whole count before) (moves : Moves 0 before after) :
    Whole count after :=
  ⟨moves.sound whole.sound, whole.linked.moves moves (Nat.lt_of_succ_lt whole.small), whole.small⟩

/-- A view is in step with its surface as far as a signal needs it. -/
def Readies (shell : Shell) (origin : SurfaceId) (signal : Signal) : Prop :=
  ∀ id view surface, shell.views.get? id = some view → view.surface = origin →
    shell.surfaces.get? origin = some surface →
      (signal = .map → view.mapped = false) ∧ (signal = .commit → surface.mapped → view.mapped = true)

theorem createPopup_narrates (shell : Shell) (id : ViewId) (popup : SurfaceId) :
    Narrates shell (shell.createPopup id popup) := by
  have desktop : (shell.createPopup id popup).desktop = shell.desktop := by
    rcases createPopup_cases shell id popup with same | ⟨-, created⟩
    · rw [same]
    · rw [created]
      rfl
  exact .quiet (fun other => faceOf?_createPopup shell id popup other) (by rw [desktop])
    (by rw [desktop])

theorem deliverToView_narrates (numbered : shell.Numbered) (live : shell.views.get? id = some view)
    {signal : Signal} (sound : shell.Sound) (ready : shell.Readies view.surface signal) :
    Narrates shell (shell.deliverToView id signal) := by
  obtain ⟨surface, present, -⟩ := sound.view_fits live
  have ready := ready id view surface live rfl present
  cases signal with
  | commit =>
    refine viewCommitted_narrates live fun found there mapped => ?_
    obtain rfl := Option.some.inj (present.symm.trans there)
    exact ready.2 rfl mapped
  | destroy => exact viewDestroyed_narrates numbered live
  | map => exact viewMapped_narrates live (ready.1 rfl)
  | unmap => exact viewUnmapped_narrates live
  | newPopup popup => exact createPopup_narrates shell id popup
  | requestMove | requestResize =>
    simp only [deliverToView]
    split
    · exact .tell live trivial
    · exact .refl shell
  | requestMaximize | requestFullscreen => exact .tell live trivial

/-- A popup tells of its damage while the view at its root is live. -/
theorem deliverToPopup_narrates {popup : PopupId} {record : Popup}
    (found : shell.popups.get? popup = some record)
    (live : shell.views.get? record.view = some view) (signal : Signal) :
    Narrates shell (shell.deliverToPopup popup signal) := by
  simp only [deliverToPopup, found]
  cases signal with
  | commit => exact .tell live trivial
  | map | unmap => exact .trans (.of_eq rfl rfl) (.tell live trivial)
  | destroy =>
    refine .quiet (fun other => faceOf?_forgetPopup shell popup other) ?_ ?_ <;>
      rw [forgetPopup, found]
  | newPopup surface => exact createPopup_narrates shell record.view surface
  | requestMove | requestResize | requestMaximize | requestFullscreen => exact .refl shell

/-- **What is told of a signal is true of every view.** -/
theorem emit_narrates {count : Nat} (whole : Whole count shell) {origin : SurfaceId}
    {signal : Signal} (ready : shell.Readies origin signal) :
    Narrates shell (shell.emit origin signal) := by
  obtain ⟨sound, linked, -⟩ := whole
  rcases followed_or_unfollowed shell origin with ⟨target, wrapping, found, rfl⟩ | alone
  · rw [sound.emit_followed found]
    cases target with
    | view id =>
      obtain ⟨view, live, rfl⟩ := Option.map_eq_some_iff.mp found
      exact deliverToView_narrates linked.viewNumbers live sound ready
    | popup id =>
      obtain ⟨record, there, rfl⟩ := Option.map_eq_some_iff.mp found
      obtain ⟨view, live, -⟩ := linked.attached id record there
      exact deliverToPopup_narrates there live signal
  · rw [emit_unfollowed sound.held alone]
    exact .refl shell

/-- A signal other than a map or a commit asks for nothing. -/
theorem readies_other {origin : SurfaceId} {signal : Signal} (map : signal ≠ .map)
    (commit : signal ≠ .commit) : shell.Readies origin signal := fun _ _ _ _ _ _ =>
  ⟨fun same => absurd same map, fun same => absurd same commit⟩

/-! ### Acts -/

theorem configure_views (shell : Shell) (surface : SurfaceId) (state : Surface) (force : Bool) :
    (shell.configure surface state force).1.views = shell.views := by
  rcases configure_cases shell surface state force with ⟨-, stored⟩ | ⟨_, _, _, -, stored⟩ <;>
    rw [stored] <;> rfl

/-- Another state of a surface changes no view and tells nothing. -/
theorem configure_narrates (shell : Shell) (surface : SurfaceId) (state : Surface) (force : Bool) :
    Narrates shell (shell.configure surface state force).1 := by
  rcases configure_cases shell surface state force with ⟨-, stored⟩ | ⟨_, _, _, -, stored⟩ <;>
    rw [stored] <;> exact .of_eq rfl rfl

theorem removeSurface_narrates {count : Nat} (whole : Whole count shell) (surface : SurfaceId) :
    Narrates shell (shell.removeSurface surface) := by
  rcases removeSurface_cases shell surface with same | ⟨state, hidden, found, frame, hides, removed⟩
  · rw [same]
    exact .refl shell
  · have stored : Whole count (shell.putSurface surface state.hide) :=
      whole.congr (putSurface_frame shell found rfl)
    have away : Narrates shell hidden := by
      rcases hides with rfl | rfl
      · exact .of_eq rfl rfl
      · exact .trans (.of_eq rfl rfl) (emit_narrates stored (readies_other (by simp) (by simp)))
    have announced : Narrates hidden (hidden.emit surface .destroy) :=
      emit_narrates (whole.congr frame) (readies_other (by simp) (by simp))
    rw [removed]
    exact (away.trans announced).trans (.of_eq rfl rfl)

theorem removeAll_narrates {count : Nat} (whole : Whole count shell) (surfaces : List SurfaceId) :
    Narrates shell (surfaces.foldl removeSurface shell) := by
  induction surfaces generalizing shell with
  | nil => exact .refl shell
  | cons surface surfaces ih =>
    exact (removeSurface_narrates whole surface).trans
      (ih (whole.moves (removeSurface_moves whole.sound surface)))

theorem newToplevel_narrates {count : Nat} (whole : Whole count shell) (roled : shell.Roled)
    (surface : SurfaceId) : Narrates shell (shell.newToplevel surface).shell := by
  rcases newToplevel_cases roled surface with ⟨fault, refused⟩ | ⟨-, taken⟩
  · rw [refused]
    exact .refl shell
  rw [taken]
  have desktop := ping_desktop (shell.putSurface surface { role := .toplevel {} }) surface
  have views := ping_views (shell.putSurface surface { role := .toplevel {} }) surface
  refine .trans (.of_eq views desktop) (createView_narrates ?_ ?_ whole.small surface)
  · intro id view live
    rw [views] at live
    rw [desktop]
    exact whole.linked.viewNumbers id view live
  · rw [desktop]
    exact whole.linked.viewCount

theorem newPopup_narrates {count : Nat} (whole : Whole count shell) (roled : shell.Roled)
    (surface parent : SurfaceId) (geometry : Rectangle) :
    Narrates shell (shell.newPopup surface parent geometry).shell := by
  rcases newPopup_cases roled surface parent geometry with ⟨fault, refused⟩ | ⟨new, taken⟩
  · rw [refused]
    exact .refl shell
  rw [taken]
  have stored := whole.moves (.single (.surface surface (.popup parent geometry) new))
  exact .trans (.of_eq rfl rfl) (emit_narrates stored (readies_other (by simp) (by simp)))

theorem commit_narrates {count : Nat} (whole : Whole count shell) {surface : SurfaceId}
    (inStep : shell.InStep surface) (commit : Commit) :
    Narrates shell (shell.commit surface commit).shell := by
  rcases commit_cases shell surface commit with
    ⟨fault, refused⟩ | ⟨state, latched, effect, present, done, taken⟩
  · rw [refused]
    exact .refl shell
  have bare := Surface.bare_commit done
  have stored : Whole count (shell.putSurface surface latched) :=
    whole.congr (putSurface_frame shell present bare)
  have followed : Narrates shell (shell.followed surface latched effect) := by
    cases effect with
    | settled => exact .of_eq rfl rfl
    | needsConfigure => exact configure_narrates _ _ _ _
    | unmapped =>
      exact .trans (.of_eq rfl rfl) (emit_narrates stored (readies_other (by simp) (by simp)))
    | mapped =>
      refine .trans (.of_eq rfl rfl) (emit_narrates stored ?_)
      intro id view _ live wraps _
      have hidden : state.mapped = false := (Surface.commit_effect done).1
      exact ⟨fun _ => (inStep id view state live wraps present).1.trans hidden, nofun⟩
  have frame := followed_frame shell effect present bare
  rw [taken]
  refine followed.trans (emit_narrates (whole.congr frame) ?_)
  -- by then the view is as visible as the surface
  intro id view shown live wraps there
  refine ⟨nofun, fun _ mapped => ?_⟩
  obtain ⟨old, was, core⟩ := view_of_frame frame live
  have same : old.surface = surface := (View.surface_of_core core).trans wraps
  obtain ⟨new, kept, -, visible⟩ := followed_view whole.sound present done was same
    (inStep id old state was same present).1
  obtain ⟨inflight, found⟩ := followed_stored shell surface latched effect
  obtain rfl := Option.some.inj (kept.symm.trans live)
  obtain rfl := Option.some.inj (found.symm.trans there)
  exact visible.trans mapped

theorem call_narrates {count : Nat} (whole : Whole count shell) (id : ViewId) (call : WindowCall) :
    Narrates shell (shell.call id call) := by
  have carried := call_carried shell id call
  generalize shell.call id call = after at carried
  cases carried with
  | forget => exact forgetView_narrates whole.linked.viewNumbers id
  | miss => exact .refl shell
  | close => exact .of_eq rfl rfl
  | propose => exact configure_narrates _ _ _ _
  | @moveResize view surface toplevel position size window =>
    obtain ⟨live, -, -⟩ := window?_eq_some.mp window
    have proposed : Narrates shell (shell.propose view surface fun state =>
        { state with size := toplevel.bounds.constrain size }).1 := configure_narrates _ _ _ _
    have kept : (shell.propose view surface fun state =>
        { state with size := toplevel.bounds.constrain size }).1.views.get? id = some view := by
      rw [propose, configure_views, live]
    rw [moveResize_eq]
    refine (proposed.trans ?_).trans (land_narrates (changeView_view kept _) _)
    -- the negotiation is nothing the desktop knows of
    exact .of_view kept (changeView_view kept _)
      (fun other differ => faceOf?_changeView_of_ne _ differ _) rfl (List.append_nil _).symm (by simp)
      (.refl _)

/-- **What is told of an act is true of every view.** -/
theorem perform_narrates {count : Nat} (whole : Whole count shell) (roled : shell.Roled)
    (inStep : ∀ surface, shell.InStep surface) (act : Act) :
    Narrates shell (shell.perform act).shell := by
  cases act with
  | call id call => exact call_narrates whole id call
  | request request =>
    cases request with
    | newToplevel surface => exact newToplevel_narrates whole roled surface
    | newPopup surface parent geometry => exact newPopup_narrates whole roled surface parent geometry
    | setMinSize surface | setMaxSize surface | ack surface =>
      rw [perform, handle]
      rcases changeSurface_stores shell surface _ with kept | ⟨_, stored⟩
      · rw [kept]
        exact .refl shell
      · rw [stored]
        exact .of_eq rfl rfl
    | commit surface commit => exact commit_narrates whole (inStep surface) commit
    | move surface | resize surface | maximize surface | fullscreen surface =>
      rcases forward_cases shell surface _ with ⟨fault, refused⟩ | taken
      · rw [perform, handle, refused]
        exact .refl shell
      · rw [perform, handle, taken]
        exact emit_narrates whole (readies_other (by simp) (by simp))
    | destroy root =>
      obtain ⟨ids, gone⟩ := destroy_removes shell root
      rw [perform, handle, gone]
      exact removeAll_narrates whole ids

/-- **What is told of a step is true of every view**, in fewer steps than there are identifiers. -/
theorem Reached.apply_narrates {count : Nat} (reached : Reached count shell)
    (short : count + 1 < 2 ^ 32) (step : Step) : Narrates shell (shell.apply step).shell := by
  rw [apply_shell, Shell.after]
  cases shell.act? step with
  | none => exact .refl shell
  | some act =>
    have whole : Whole count shell := ⟨reached.sound, reached.linked (by omega), short⟩
    exact perform_narrates whole reached.roled reached.inStep act

/-- **What is told of a run is true of every view**, in fewer steps than there are identifiers. -/
theorem Reached.runFrom_narrates {count : Nat} (reached : Reached count shell) (index : Nat)
    (steps : List Step) (short : count + steps.length < 2 ^ 32) :
    Narrates shell (shell.runFrom index steps).1 := by
  induction steps generalizing count shell index with
  | nil => exact .refl shell
  | cons step steps ih =>
    rw [List.length_cons] at short
    have rest := ih (reached.apply step) (index + 1) (by omega)
    have first := reached.apply_narrates (by omega) step
    simp only [Shell.runFrom]
    split <;> exact first.trans rest

end Stages

/-- The view of a surface is live and wraps it. -/
theorem viewOf?_live {shell : Shell} {surface : SurfaceId} {id : ViewId}
    (found : shell.viewOf? surface = some id) :
    ∃ view, shell.views.get? id = some view ∧ view.surface = surface := by
  obtain ⟨view, live, wraps⟩ := Table.findKey?_eq_some found
  exact ⟨view, live, of_decide_eq_true wraps⟩

end Shell

namespace Scenario

open Shell

/-- **The life of a view, as the desktop sees it.** In fewer steps than there are identifiers, the log
of a scenario is the biography of every view, and nothing is told of a view after a step of the desktop
that forgets it. -/
theorem views_live_in_order (scenario : Scenario) (settings : Settings)
    (short : scenario.steps.length < 2 ^ 32 - 1) (id : ViewId) :
    Biography id (scenario.replay settings).events ∧
      ∀ front surface back, scenario.steps = front ++ .destroyView surface :: back →
        ((scenario.start settings).runFrom 0 front).1.viewOf? surface = some id →
          ∃ later, (scenario.replay settings).events =
              ((scenario.start settings).runFrom 0 front).1.desktop.events ++ later ∧
            ∀ event ∈ later, event.view ≠ id := by
  have reached := Reached.start scenario settings
  constructor
  · obtain ⟨log, events, passages⟩ :=
      reached.runFrom_narrates 0 scenario.steps (by omega)
    have passage := passages id
    rw [stageOf_absent rfl] at passage
    show Biography id ((scenario.start settings).runFrom 0 scenario.steps).1.desktop.events
    rw [events]
    split at passage
    · exact passage.biography
    · exact biography_of_silent passage.told_nothing
  · intro front surface back same removed
    have onward := reached.runFrom 0 front
    generalize before : ((scenario.start settings).runFrom 0 front).1 = shell at removed onward ⊢
    obtain ⟨view, live, -⟩ := viewOf?_live removed
    have few : front.length + back.length + 1 < 2 ^ 32 - 1 := by
      rw [same] at short
      simpa [Nat.add_assoc] using short
    have forgets : (shell.apply (.destroyView surface)).shell = shell.forgetView id := by
      simp only [Shell.apply, callOf, removed]
      rfl
    have replays : (scenario.replay settings).events =
        ((shell.forgetView id).runFrom 0 back).1.desktop.events := by
      show ((scenario.start settings).runFrom 0 scenario.steps).1.desktop.events = _
      rw [runFrom_fst, same, List.foldl_append, ← runFrom_fst _ 0 front, before, List.foldl_cons,
        forgets, runFrom_fst]
    obtain ⟨later, events, passages⟩ := (forgets ▸ onward.apply (.destroyView surface)).runFrom_narrates
      0 back (by omega)
    have numbered := (onward.linked (by omega)).viewNumbers
    have passage := passages id
    rw [stageOf_forgetView numbered live, if_pos rfl] at passage
    exact ⟨later, by rw [replays, events, forgetView_desktop], passage.told_nothing⟩

/-- A window that is shown and forgotten, and whose client goes on. -/
def forgottenWindow : Scenario where
  steps :=
    [ .newToplevel ⟨1⟩, .commit ⟨1⟩ none false none, .ack ⟨1⟩ none,
      .commit ⟨1⟩ (some { width := 90, height := 90 }) false none, .destroyView ⟨1⟩,
      .commit ⟨1⟩ (some { width := 80, height := 80 }) false none, .newToplevel ⟨2⟩ ]

/-- Four events tell the life of its view, and what the desktop is told after that is of another one. -/
theorem views_live_in_order_forgottenWindow :
    Biography ⟨1⟩ (forgottenWindow.replay {}).events ∧
      ∃ later, later ≠ [] ∧ (∀ event ∈ later, event.view ≠ ⟨1⟩) ∧
        (forgottenWindow.replay {}).events =
          [ .viewCreated ⟨1⟩, .mapped ⟨1⟩ { width := 90, height := 90 }, .damaged ⟨1⟩,
            .resized ⟨1⟩ { width := 90, height := 90 } ] ++ later := by
  obtain ⟨life, forgets⟩ := views_live_in_order forgottenWindow {} (by decide) ⟨1⟩
  obtain ⟨later, events, others⟩ :=
    forgets (forgottenWindow.steps.take 4) ⟨1⟩ (forgottenWindow.steps.drop 5) rfl rfl
  refine ⟨life, later, fun silent => ?_, others, events⟩
  rw [silent] at events
  exact absurd events (by decide)

end Scenario

end WindowShell
