/-
**Where a view is.**

A view is moved in two ways. A call to move and resize it applies at once if the client is told nothing
and nothing is awaited. Otherwise the target is parked, and a commit of the client releases it once the
client has caught up with the awaited configure. Only these two touch the negotiation of the view as
well, and the desktop is told of a move exactly if the position changes:

* `perform_shift`: what an act does to a view, its negotiation and the log;
* `view_moves_only_by_negotiation`: when the position, the awaited serial and the target change, and
  what to.
-/

import WindowShell.Proofs.Census
import WindowShell.Proofs.Steady

namespace WindowShell

namespace Shell

/-- An act sends a surface a configure and nothing else, or sends nothing at all. -/
def Sends (shell : Shell) (act : Act) (surface : SurfaceId) : Option Serial → Prop
  | none => (shell.perform act).shell.outbox = shell.outbox
  | some serial => ∃ payload, (shell.perform act).shell.outbox =
      shell.outbox ++ [.configure surface { serial, payload }]

/-- An act is a commit that a surface takes, and the surface is visible with it. -/
def Shows (shell : Shell) (act : Act) (id : SurfaceId) (surface : Surface) : Prop :=
  ∃ commit, act = .request (.commit id commit) ∧ (shell.perform act).fault = none ∧
    (shell.perform act).shell.surfaces.get? id = some surface ∧ surface.mapped

/-- **What an act does to the negotiation of a view**, and the position it releases. -/
inductive Shift (shell : Shell) (id : ViewId) (old : View) :
    Act → Negotiation → Option Point → Prop
  | rest {act : Act} (uncalled : ∀ position size, act ≠ .call id (.moveResize position size))
      (unseen : ∀ surface, ¬ shell.Shows act old.surface surface) :
      Shift shell id old act old.negotiation none
  | request {position : Point} {size : Extent} {surface : Surface} {toplevel : Toplevel}
      {serial : Option Serial} (window : shell.window? id = some (old, surface, toplevel))
      (sends : shell.Sends (.call id (.moveResize position size)) old.surface serial) :
      Shift shell id old (.call id (.moveResize position size))
        (old.negotiation.request
          (.plan old.position position size (toplevel.bounds.constrain size)) serial).1
        (old.negotiation.request
          (.plan old.position position size (toplevel.bounds.constrain size)) serial).2
  | follow {act : Act} {surface : Surface} (shows : shell.Shows act old.surface surface) :
      Shift shell id old act
        (old.negotiation.reconcile surface.configureSerial old.position surface.contentSize).1
        (old.negotiation.reconcile surface.configureSerial old.position surface.contentSize).2

/-- A view ends where it was released to, or where it was, and the desktop is told if it moved. -/
structure Lands (before after : Shell) (id : ViewId) (old new : View) (released : Option Point) :
    Prop where
  /-- The position is the one that was released. -/
  position : new.position = released.getD old.position
  /-- Only a new position is told. -/
  moves : after.movesOf id =
    before.movesOf id ++ (released.filter fun point => point ≠ old.position).toList

/-! ### Releasing a position -/

theorem changeView_view {shell : Shell} {id : ViewId} {view : View}
    (found : shell.views.get? id = some view) (change : View → View) :
    (shell.changeView id change).views.get? id = some (change view) := by
  rw [changeView, Table.get?_modify, if_pos rfl, found, Option.map_some]

/-- Puts a view where it is released to, if it is released. -/
def land (shell : Shell) (id : ViewId) (released : Option Point) : Shell :=
  released.elim shell fun position => shell.placeView id position

theorem land_clientSide (shell : Shell) (id : ViewId) (released : Option Point) :
    (shell.land id released).clientSide = shell.clientSide := by
  cases released with
  | none => rfl
  | some position => exact placeView_clientSide shell id position

theorem land_view {shell : Shell} {id : ViewId} {view : View}
    (found : shell.views.get? id = some view) (released : Option Point) :
    (shell.land id released).views.get? id =
      some { view with position := released.getD view.position } := by
  cases released with
  | none => exact found
  | some position =>
    rw [land, Option.elim_some, placeView, found]
    by_cases same : view.position = position
    · subst same
      simp [found]
    · simp [same, tell, changeView, Table.get?_modify, found]

theorem land_moves {shell : Shell} {id : ViewId} {view : View}
    (found : shell.views.get? id = some view) (released : Option Point) :
    (shell.land id released).movesOf id =
      shell.movesOf id ++ (released.filter fun point => point ≠ view.position).toList := by
  cases released with
  | none => exact (List.append_nil _).symm
  | some position =>
    rw [land, Option.elim_some, placeView, found]
    by_cases same : view.position = position
    · simp [same]
    · have differ : position ≠ view.position := Ne.symm same
      simp [same, differ, Option.filter, tell, Desktop.tell, movesOf, changeView, Event.movedTo?]

/-! ### Following a commit -/

/-- A view whose surface is visible follows a commit. -/
theorem viewCommitted_of_mapped {shell : Shell} {id : ViewId} {view : View} {surface : Surface}
    (found : shell.views.get? id = some view)
    (present : shell.surfaces.get? view.surface = some surface) (mapped : surface.mapped) :
    shell.viewCommitted id =
      (((shell.changeView id fun record =>
        { record with
          size := surface.contentSize
          negotiation := (view.negotiation.reconcile surface.configureSerial view.position
            surface.contentSize).1 }).land id
        (view.negotiation.reconcile surface.configureSerial view.position
          surface.contentSize).2).tell (.damaged id)).tell (.resized id surface.contentSize) := by
  simp only [viewCommitted, found, present, if_pos mapped]
  cases (view.negotiation.reconcile surface.configureSerial view.position surface.contentSize).2 <;>
    rfl

theorem viewCommitted_of_hidden {shell : Shell} {id : ViewId} {view : View} {surface : Surface}
    (found : shell.views.get? id = some view)
    (present : shell.surfaces.get? view.surface = some surface) (hidden : ¬ surface.mapped) :
    shell.viewCommitted id = shell := by
  simp only [viewCommitted, found, present, if_neg hidden]

theorem moveResize_eq (shell : Shell) (id : ViewId) (view : View) (surface : Surface)
    (bounds : SizeBounds) (position : Point) (size : Extent) :
    shell.moveResize id view surface bounds position size =
      let proposed := shell.propose view surface fun state =>
        { state with size := bounds.constrain size }
      let requested := view.negotiation.request
        (.plan view.position position size (bounds.constrain size)) proposed.2
      (proposed.1.changeView id fun view => { view with negotiation := requested.1 }).land id
        requested.2 := by
  simp only [moveResize]
  split
  · next released => rw [released]; rfl
  · next released => rw [released]; rfl

/-! ### Every act shifts every view -/

section Shifts

variable {shell : Shell} {id : ViewId} {old new : View} {act : Act}

/-- A steady act that neither calls the view nor commits its surface lets it rest. -/
theorem Steady.shift (steady : Steady id old.surface shell (shell.perform act).shell)
    (live : shell.views.get? id = some old)
    (kept : (shell.perform act).shell.views.get? id = some new) (same : new.surface = old.surface)
    (uncalled : ∀ position size, act ≠ .call id (.moveResize position size))
    (unseen : ∀ surface, ¬ shell.Shows act old.surface surface) :
    ∃ released, shell.Shift id old act new.negotiation released ∧
      Lands shell (shell.perform act).shell id old new released := by
  obtain ⟨earlier, there, -, position, negotiation⟩ := steady.view new kept same
  obtain rfl := Option.some.inj (live.symm.trans there)
  refine ⟨none, negotiation ▸ .rest uncalled unseen, position, ?_⟩
  rw [steady.moves]
  exact (List.append_nil _).symm

/-- A call to move and resize a view is a request to its negotiation. -/
theorem moveResize_shift (sound : shell.Sound) (live : shell.views.get? id = some old)
    (position : Point) (size : Extent)
    (kept : (shell.call id (.moveResize position size)).views.get? id = some new) :
    ∃ released, shell.Shift id old (.call id (.moveResize position size)) new.negotiation released ∧
      Lands shell (shell.call id (.moveResize position size)) id old new released := by
  obtain ⟨surface, present, window⟩ := sound.view_fits live
  obtain ⟨toplevel, role⟩ := Surface.isToplevel_iff.mp window
  have window : shell.window? id = some (old, surface, toplevel) :=
    window?_eq_some.mpr ⟨live, present, role⟩
  have called : shell.call id (.moveResize position size) =
      shell.moveResize id old surface toplevel.bounds position size := by
    simp only [Shell.call, onWindow, window]
  obtain ⟨proposal, proposed⟩ : ∃ proposal, shell.propose old surface (fun state =>
      { state with size := toplevel.bounds.constrain size }) = proposal := ⟨_, rfl⟩
  have cases := configure_cases shell old.surface
    (surface.setPending fun state => { state with size := toplevel.bounds.constrain size }) false
  rw [← propose, proposed] at cases
  have views : proposal.1.views = shell.views := by
    rcases cases with ⟨-, rfl⟩ | ⟨_, _, _, -, rfl⟩ <;> rfl
  have moves : proposal.1.movesOf id = shell.movesOf id := by
    rcases cases with ⟨-, rfl⟩ | ⟨_, _, _, -, rfl⟩ <;> rfl
  rw [moveResize_eq, proposed] at called
  have changed := changeView_view (show proposal.1.views.get? id = some old by rw [views, live])
    fun view =>
      { view with
        negotiation := (old.negotiation.request (.plan old.position position size
          (toplevel.bounds.constrain size)) proposal.2).1 }
  have sends : shell.Sends (.call id (.moveResize position size)) old.surface proposal.2 := by
    have outbox : (shell.call id (.moveResize position size)).outbox = proposal.1.outbox := by
      rw [called]
      exact outbox_of_clientSide (land_clientSide _ _ _)
    rcases cases with ⟨-, rfl⟩ | ⟨configure, _, _, -, rfl⟩
    · exact outbox
    · exact ⟨configure.payload, outbox⟩
  rw [called, land_view changed] at kept
  obtain rfl := Option.some.inj kept
  refine ⟨_, .request window sends, rfl, ?_⟩
  rw [called, land_moves changed]
  exact congrArg (· ++ _) moves

theorem followed_surface (shell : Shell) (surface : SurfaceId) (state : Surface)
    (effect : CommitEffect) :
    ∃ stored, (shell.followed surface state effect).surfaces.get? surface = some stored := by
  have put : (shell.putSurface surface state).surfaces.get? surface = some state := by
    rw [putSurface, Table.get?_insert, if_pos rfl]
  cases effect with
  | settled => exact ⟨state, put⟩
  | needsConfigure =>
    rcases configure_cases shell surface state true with ⟨-, stored⟩ | ⟨_, told, _, -, stored⟩ <;>
      rw [followed, stored]
    · exact ⟨state, put⟩
    · exact ⟨told, by simp [send, putSurface, Table.get?_insert]⟩
  | mapped => exact ⟨state, by rw [followed, emit_surfaces, put]⟩
  | unmapped => exact ⟨state, by rw [followed, emit_surfaces, put]⟩

/-- A commit is rejected, or it is announced by a shell that has the same frame and views. -/
theorem commit_announced (shell : Shell) (surface : SurfaceId) (commit : Commit) :
    (∃ fault, shell.commit surface commit = shell.reject fault) ∨
      ∃ announced stored, shell.commit surface commit =
          (announced.emit surface .commit).accept ∧ announced.frame = shell.frame ∧
        announced.surfaces.get? surface = some stored ∧
          ∀ id other, Steady id other shell announced := by
  rcases commit_cases shell surface commit with
    refused | ⟨before, after, effect, found, done, taken⟩
  · exact .inl refused
  · obtain ⟨stored, shown⟩ := followed_surface shell surface after effect
    exact .inr ⟨shell.followed surface after effect, stored, taken,
      followed_frame shell effect found (Surface.bare_commit done), shown,
      fun _ _ => followed_steady _ _ _⟩

/-- A view that follows a commit lands where its negotiation releases it. -/
theorem viewCommitted_lands {view : View} {surface : Surface}
    (found : shell.views.get? id = some view)
    (present : shell.surfaces.get? view.surface = some surface) (mapped : surface.mapped)
    (kept : (shell.viewCommitted id).views.get? id = some new) :
    new.negotiation = (view.negotiation.reconcile surface.configureSerial view.position
        surface.contentSize).1 ∧
      Lands shell (shell.viewCommitted id) id view new (view.negotiation.reconcile
        surface.configureSerial view.position surface.contentSize).2 := by
  rw [viewCommitted_of_mapped found present mapped] at kept ⊢
  have changed := changeView_view found fun record =>
    { record with
      size := surface.contentSize
      negotiation := (view.negotiation.reconcile surface.configureSerial view.position
        surface.contentSize).1 }
  obtain rfl := Option.some.inj ((land_view changed _).symm.trans kept)
  refine ⟨rfl, rfl, ?_⟩
  rw [tell_moves _ rfl, tell_moves _ rfl, land_moves changed]
  rfl

/-- A commit is followed by the view of its surface, if the surface is visible with it. -/
theorem commit_shift (sound : shell.Sound) (live : shell.views.get? id = some old)
    (surface : SurfaceId) (commit : Commit)
    (kept : (shell.commit surface commit).shell.views.get? id = some new)
    (same : new.surface = old.surface) :
    ∃ released, shell.Shift id old (.request (.commit surface commit)) new.negotiation released ∧
      Lands shell (shell.commit surface commit).shell id old new released := by
  have still : Steady id old.surface shell (shell.commit surface commit).shell →
      (∀ state, ¬ shell.Shows (.request (.commit surface commit)) old.surface state) →
      ∃ released, shell.Shift id old (.request (.commit surface commit)) new.negotiation released ∧
        Lands shell (shell.commit surface commit).shell id old new released :=
    fun steady unseen => steady.shift live kept same (by simp) unseen
  rcases commit_announced shell surface commit with
    ⟨fault, refused⟩ | ⟨announced, stored, taken, frame, shown, steady⟩
  · refine still (refused ▸ .refl shell) ?_
    rintro state ⟨_, -, done, -⟩
    rw [perform, handle, refused] at done
    cases done
  obtain ⟨view, there, core⟩ := view_of_frame frame.symm live
  have mine : view.surface = old.surface := View.surface_of_core core
  obtain ⟨earlier, present, -, position, negotiation⟩ := (steady id _).view view there mine
  obtain rfl := Option.some.inj (live.symm.trans present)
  have wraps : announced.wrapping? (.view id) = some view.wrapping := by
    rw [wrapping?, there, Option.map_some]
  have sound := sound.congr frame
  by_cases here : surface = old.surface
  · subst here
    have heard : (shell.commit old.surface commit).shell = announced.viewCommitted id := by
      rw [taken, ← mine]
      exact sound.emit_followed wraps .commit
    have seen : (shell.commit old.surface commit).shell.surfaces.get? old.surface = some stored := by
      rw [taken, accept, emit_surfaces, shown]
    rw [← mine] at shown
    by_cases visible : stored.mapped
    · have shows : shell.Shows (.request (.commit old.surface commit)) old.surface stored :=
        ⟨commit, rfl, by rw [perform, handle, taken]; rfl, seen, visible⟩
      have shift : shell.Shift id old _ _ _ := .follow shows
      rw [← position, ← negotiation] at shift
      obtain ⟨same, lands⟩ := viewCommitted_lands there shown visible (heard ▸ kept)
      rw [heard, same]
      refine ⟨_, shift, position ▸ lands.position, ?_⟩
      rw [lands.moves, (steady id old.surface).moves, position]
    · rw [viewCommitted_of_hidden there shown visible] at heard
      refine still (heard ▸ steady id _) ?_
      rintro state ⟨_, -, -, present, mapped⟩
      obtain rfl := Option.some.inj (seen.symm.trans present)
      exact visible mapped
  · refine still ?_ ?_
    · rw [taken]
      refine (steady id _).trans ?_
      rcases followed_or_unfollowed announced surface with ⟨target, wrapping, wrapped, rfl⟩ | alone
      · rw [accept, sound.emit_followed wrapped]
        refine deliver_steady fun _ same => ?_
        subst same
        obtain rfl := Option.some.inj (wraps.symm.trans wrapped)
        exact here mine
      · rw [accept, emit_unfollowed sound.held alone]
        exact .refl announced
    · rintro state ⟨_, also, -⟩
      cases also
      exact here rfl

/-- **Every act shifts every view** that is there before and after it. -/
theorem perform_shift (sound : shell.Sound) (roled : shell.Roled) (act : Act)
    (live : shell.views.get? id = some old)
    (kept : (shell.perform act).shell.views.get? id = some new) (same : new.surface = old.surface) :
    ∃ released, shell.Shift id old act new.negotiation released ∧
      Lands shell (shell.perform act).shell id old new released := by
  obtain ⟨surface, present, -⟩ := sound.view_fits live
  cases act with
  | call view call =>
    have unseen : ∀ surface, ¬ shell.Shows (.call view call) old.surface surface := by
      rintro surface ⟨_, also, -⟩
      cases also
    by_cases other : ∀ position size, call = .moveResize position size → id ≠ view
    · refine (call_steady view other).shift live kept same ?_ unseen
      rintro position size also
      cases also
      exact other position size rfl rfl
    · simp only [not_forall, Decidable.not_not] at other
      obtain ⟨position, size, rfl, rfl⟩ := other
      exact moveResize_shift sound live position size kept
  | request request =>
    have still : Steady id old.surface shell (shell.handle request).shell →
        (∀ commit, request ≠ .commit old.surface commit) →
        ∃ released, shell.Shift id old (.request request) new.negotiation released ∧
          Lands shell (shell.handle request).shell id old new released := fun steady other => by
      refine Steady.shift steady live kept same (by simp) ?_
      rintro surface ⟨commit, also, -⟩
      exact other commit (Act.request.inj also)
    cases request with
    | newToplevel other => exact still (newToplevel_steady roled other present) (by simp)
    | newPopup other parent geometry =>
      exact still (newPopup_steady roled other parent geometry) (by simp)
    | setMinSize | setMaxSize | ack => exact still (changeSurface_steady _ _) (by simp)
    | commit surface commit => exact commit_shift sound live surface commit kept same
    | move | resize | maximize | fullscreen => exact still (forward_steady _ (by simp)) (by simp)
    | destroy root => exact still (destroy_steady root) (by simp)

end Shifts

/-! ### When a view moves, and what it waits for -/

/-- An act is a call to move and resize a view, and this is the target it plans. -/
def Plans (shell : Shell) (id : ViewId) (old : View) (act : Act) (target : Target) : Prop :=
  ∃ position size surface toplevel, act = .call id (.moveResize position size) ∧
    shell.window? id = some (old, surface, toplevel) ∧
      target = .plan old.position position size (toplevel.bounds.constrain size)

/-- **An act releases a position**: that of a planned target if the client is told nothing and nothing
is awaited, and that of the parked target if a commit has caught up with what is awaited. -/
def Releases (shell : Shell) (id : ViewId) (old : View) (act : Act) (point : Point) : Prop :=
  (∃ target, shell.Plans id old act target ∧ shell.Sends act old.surface none ∧
      old.negotiation.awaited = none ∧ point = target.position) ∨
    ∃ surface awaited caught, shell.Shows act old.surface surface ∧
      old.negotiation.awaited = some awaited ∧ surface.configureSerial = some caught ∧
        awaited ≤ caught ∧
          point = old.negotiation.target.positionFor old.position surface.contentSize

/-- An act parks a target behind the configure it sends. -/
def Parks (shell : Shell) (id : ViewId) (old : View) (act : Act) (serial : Serial) : Prop :=
  ∃ target, shell.Plans id old act target ∧ shell.Sends act old.surface (some serial)

/-- An act is a commit with exactly the configure that is awaited. -/
def Meets (shell : Shell) (old : View) (act : Act) : Prop :=
  ∃ surface awaited, shell.Shows act old.surface surface ∧
    old.negotiation.awaited = some awaited ∧ surface.configureSerial = some awaited

section Changes

variable {shell : Shell} {id : ViewId} {old : View} {act : Act} {negotiation : Negotiation}
  {released : Option Point}

theorem Sends.unique {surface : SurfaceId} {first second : Option Serial}
    (one : shell.Sends act surface first) (two : shell.Sends act surface second) :
    first = second := by
  cases first with
  | none =>
    cases second with
    | none => rfl
    | some serial =>
      obtain ⟨payload, longer⟩ := two
      simpa using one.symm.trans longer
  | some serial =>
    obtain ⟨payload, longer⟩ := one
    cases second with
    | none => simpa using two.symm.trans longer
    | some other =>
      obtain ⟨_, also⟩ := two
      have same := longer.symm.trans also
      simp only [List.append_cancel_left_eq, List.cons.injEq, Message.configure.injEq,
        Configure.mk.injEq] at same
      rw [same.1.2.1]

theorem Shows.unique {surface : SurfaceId} {first second : Surface}
    (one : shell.Shows act surface first) (two : shell.Shows act surface second) :
    first = second := by
  obtain ⟨_, -, -, present, -⟩ := one
  obtain ⟨_, -, -, also, -⟩ := two
  exact Option.some.inj (present.symm.trans also)

theorem Plans.unique {first second : Target} (one : shell.Plans id old act first)
    (two : shell.Plans id old act second) : first = second := by
  obtain ⟨_, _, _, _, rfl, window, rfl⟩ := one
  obtain ⟨_, _, _, _, also, same, rfl⟩ := two
  cases also
  rw [window] at same
  cases same
  rfl

/-- No act is both a call on a view and a commit. -/
theorem not_plans_of_shows {surface : SurfaceId} {state : Surface} {target : Target}
    (shows : shell.Shows act surface state) : ¬ shell.Plans id old act target := by
  obtain ⟨_, rfl, -⟩ := shows
  rintro ⟨_, _, _, _, also, -⟩
  cases also

namespace Shift

theorem plans {position : Point} {size : Extent} {surface : Surface} {toplevel : Toplevel}
    (window : shell.window? id = some (old, surface, toplevel)) :
    shell.Plans id old (.call id (.moveResize position size))
      (.plan old.position position size (toplevel.bounds.constrain size)) :=
  ⟨position, size, surface, toplevel, rfl, window, rfl⟩

theorem released_iff (shift : shell.Shift id old act negotiation released) (point : Point) :
    released = some point ↔ shell.Releases id old act point := by
  cases shift with
  | rest uncalled unseen =>
    refine ⟨by simp, ?_⟩
    rintro (⟨_, ⟨position, size, _, _, same, -⟩, -⟩ | ⟨surface, _, _, shows, -⟩)
    · exact absurd same (uncalled position size)
    · exact absurd shows (unseen surface)
  | request window sends =>
    rw [Negotiation.request_released]
    constructor
    · rintro ⟨rfl, idle, rfl⟩
      exact .inl ⟨_, plans window, sends, idle, rfl⟩
    · rintro (⟨target, planned, silent, idle, rfl⟩ | ⟨_, _, _, shows, -⟩)
      · obtain rfl := planned.unique (plans window)
        exact ⟨sends.unique silent, idle, rfl⟩
      · exact absurd (plans window) (not_plans_of_shows shows)
  | follow shows =>
    rw [Negotiation.reconcile_released]
    constructor
    · rintro ⟨awaited, caught, waits, catches, order, rfl⟩
      exact .inr ⟨_, awaited, caught, shows, waits, catches, order, rfl⟩
    · rintro (⟨target, planned, -⟩ | ⟨surface, awaited, caught, also, waits, catches, order, rfl⟩)
      · exact absurd planned (not_plans_of_shows shows)
      · obtain rfl := also.unique shows
        exact ⟨awaited, caught, waits, catches, order, rfl⟩

/-- What a call to move and resize does to the negotiation of a view. -/
theorem of_window {position : Point} {size : Extent} {surface : Surface} {toplevel : Toplevel}
    (shift : shell.Shift id old (.call id (.moveResize position size)) negotiation released)
    (window : shell.window? id = some (old, surface, toplevel)) :
    ∃ serial, shell.Sends (.call id (.moveResize position size)) old.surface serial ∧
      negotiation = (old.negotiation.request
        (.plan old.position position size (toplevel.bounds.constrain size)) serial).1 ∧
      released = (old.negotiation.request
        (.plan old.position position size (toplevel.bounds.constrain size)) serial).2 := by
  cases shift with
  | rest uncalled => exact absurd rfl (uncalled position size)
  | request also sends =>
    cases window.symm.trans also
    exact ⟨_, sends, rfl, rfl⟩
  | follow shows => exact absurd (plans window) (not_plans_of_shows shows)

/-- What a commit releases. -/
theorem released_of_shows {surface : Surface} (shift : shell.Shift id old act negotiation released)
    (shows : shell.Shows act old.surface surface) :
    released = (old.negotiation.reconcile surface.configureSerial old.position
      surface.contentSize).2 := by
  cases shift with
  | rest _ unseen => exact absurd shows (unseen surface)
  | request window => exact absurd (plans window) (not_plans_of_shows shows)
  | follow also => rw [also.unique shows]

theorem awaited_of_parks (shift : shell.Shift id old act negotiation released) {serial : Serial}
    (parks : shell.Parks id old act serial) : negotiation.awaited = some serial := by
  obtain ⟨target, planned, sent⟩ := parks
  cases shift with
  | rest uncalled =>
    obtain ⟨position, size, _, _, same, -⟩ := planned
    exact absurd same (uncalled position size)
  | request window sends =>
    rw [Negotiation.request_awaited, sends.unique sent, Option.some_or]
  | follow shows => exact absurd planned (not_plans_of_shows shows)

theorem awaited_of_meets (shift : shell.Shift id old act negotiation released)
    (meets : shell.Meets old act) : negotiation.awaited = none := by
  obtain ⟨surface, awaited, shows, waits, catches⟩ := meets
  cases shift with
  | rest _ unseen => exact absurd shows (unseen surface)
  | request window => exact absurd (plans window) (not_plans_of_shows shows)
  | follow also =>
    obtain rfl := also.unique shows
    rw [Negotiation.reconcile_awaited, if_pos (waits.trans catches.symm)]

theorem awaited_changes (shift : shell.Shift id old act negotiation released)
    (changed : negotiation.awaited ≠ old.negotiation.awaited) :
    (∃ serial, shell.Parks id old act serial) ∨ shell.Meets old act := by
  cases shift with
  | rest => exact absurd rfl changed
  | @request _ _ _ _ serial window sends =>
    rw [Negotiation.request_awaited] at changed
    cases serial with
    | none => exact absurd Option.none_or changed
    | some serial => exact .inl ⟨serial, _, plans window, sends⟩
  | @follow _ surface shows =>
    rw [Negotiation.reconcile_awaited] at changed
    split at changed
    · next met =>
      cases waits : old.negotiation.awaited with
      | none => exact absurd waits.symm changed
      | some awaited => exact .inr ⟨surface, awaited, shows, waits, met ▸ waits⟩
    · exact absurd rfl changed

theorem target_of_plans (shift : shell.Shift id old act negotiation released) {target : Target}
    (planned : shell.Plans id old act target) : negotiation.target = target := by
  cases shift with
  | rest uncalled =>
    obtain ⟨position, size, _, _, same, -⟩ := planned
    exact absurd same (uncalled position size)
  | request window => rw [Negotiation.request_target, (plans window).unique planned]
  | follow shows => exact absurd planned (not_plans_of_shows shows)

theorem target_changes (shift : shell.Shift id old act negotiation released)
    (changed : negotiation.target ≠ old.negotiation.target) :
    ∃ target, shell.Plans id old act target := by
  cases shift with
  | rest => exact absurd rfl changed
  | request window => exact ⟨_, plans window⟩
  | follow => exact absurd (Negotiation.reconcile_target _ _ _ _) changed

end Shift

end Changes

/-- **A view moves only through its negotiation.** Of every view that is there before and after an act,
the position changes only to one that the act releases, and then it does. The awaited serial changes
only to the one under which the act parks a target, and to none where a commit meets it exactly. The
parked target is that of the latest call to move and resize. The desktop is told of a move exactly if
the position changes. Before the count of views wraps around, no identifier is given to another view;
after that, a view is the same one if it wraps the same surface. -/
theorem view_moves_only_by_negotiation {count : Nat} {shell : Shell} (reached : Reached count shell)
    (act : Act) (id : ViewId) {old new : View} (live : shell.views.get? id = some old)
    (kept : (shell.perform act).shell.views.get? id = some new) :
    (count < 2 ^ 32 - 1 → new.surface = old.surface) ∧
      (new.surface = old.surface →
        (new.position ≠ old.position → shell.Releases id old act new.position) ∧
        (∀ point, shell.Releases id old act point → new.position = point) ∧
        (new.negotiation.awaited ≠ old.negotiation.awaited →
          (∃ serial, shell.Parks id old act serial) ∨ shell.Meets old act) ∧
        (∀ serial, shell.Parks id old act serial → new.negotiation.awaited = some serial) ∧
        (shell.Meets old act → new.negotiation.awaited = none) ∧
        (new.negotiation.target ≠ old.negotiation.target →
          ∃ target, shell.Plans id old act target) ∧
        (∀ target, shell.Plans id old act target → new.negotiation.target = target) ∧
        (shell.perform act).shell.movesOf id =
          shell.movesOf id ++ if new.position = old.position then [] else [new.position]) := by
  refine ⟨fun short => reached.surface_kept short act live kept, fun same => ?_⟩
  obtain ⟨released, shift, lands⟩ := perform_shift reached.sound reached.roled act live kept same
  have position := lands.position
  refine ⟨fun changed => ?_, fun point releases => ?_, shift.awaited_changes,
    fun _ => shift.awaited_of_parks, shift.awaited_of_meets, shift.target_changes,
    fun _ => shift.target_of_plans, ?_⟩
  · refine (shift.released_iff new.position).mp ?_
    cases released with
    | none => exact absurd position changed
    | some point => rw [position, Option.getD_some]
  · rw [position, (shift.released_iff point).mpr releases, Option.getD_some]
  · rw [lands.moves, position]
    cases released with
    | none => simp
    | some point => by_cases still : point = old.position <;> simp [Option.filter, still]

/-- A window that is moved to the right and resized, up to the acknowledgement of its client. -/
def parkedMove : List Act :=
  [ .request (.newToplevel ⟨1⟩), .request (.commit ⟨1⟩ {}), .request (.ack ⟨1⟩ 1),
    .request (.commit ⟨1⟩ { buffer := .attach { width := 100, height := 100 } }),
    .call ⟨1⟩ (.moveResize { x := 10, y := 0 } { width := 50, height := 50 }),
    .request (.ack ⟨1⟩ 2) ]

/-- Its client then commits ten less than it was asked for, and the far edge stays at sixty. -/
theorem view_moves_only_by_negotiation_parkedMove :
    ∃ old new, ((fresh { pingOnCreate := false } .empty 0).performAll parkedMove).views.get? ⟨1⟩ =
        some old ∧
      (((fresh { pingOnCreate := false } .empty 0).performAll parkedMove).perform
        (.request (.commit ⟨1⟩ { buffer := .attach { width := 40, height := 50 } }))).shell.views.get?
          ⟨1⟩ = some new ∧
      ((fresh { pingOnCreate := false } .empty 0).performAll parkedMove).Releases ⟨1⟩ old
        (.request (.commit ⟨1⟩ { buffer := .attach { width := 40, height := 50 } })) new.position ∧
      new.position = { x := 20, y := 0 } := by
  refine ⟨_, _, rfl, rfl, ?_, by decide⟩
  have moves := view_moves_only_by_negotiation
    ((Reached.fresh 0 { pingOnCreate := false } .empty 0).performAll parkedMove)
    (.request (.commit ⟨1⟩ { buffer := .attach { width := 40, height := 50 } })) ⟨1⟩ rfl rfl
  exact (moves.2 (by decide)).1 (by decide)

end Shell

end WindowShell
