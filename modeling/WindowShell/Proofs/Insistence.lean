/-
**Calls that are made twice.**

Window management may repeat itself: a call that asks a window for what was just asked of it changes
nothing that anyone can see. The first call leaves the window informed, that is, the newest configure says
what the window is wanted to be, so that nothing is left to tell. A move is planned against the present
position, and the first call may have moved the view; yet a plan from the position it led to leads to the
same position. All that a second call may replace is a target that nobody waits for:

* `Surface.Informed`, `propose_informs`, `propose_of_informed`: the first call informs the window, and one
  that is informed is told nothing;
* `Target.plan_again`, `Negotiation.request_again`: a move to where the window was just moved is no move;
* `call_indistinct`: the shells after one and after two calls cannot be told apart;
* `call_again`: so the second call sends, allocates and reports nothing, it changes no surface and no
  view, and whatever happens later is the same.
-/

import WindowShell.Proofs.Gist

namespace WindowShell

/-! ### Moves to where the window is -/

namespace Target

/-- **A plan made from where it leads to leads there as well.** A coordinate that was left alone is
left alone, and one that was dragged is dragged by as much, or it is at its wish and stays. -/
theorem plan_again (current wished : Point) (requested allowed : Extent) :
    (plan (plan current wished requested allowed).position wished requested allowed).position =
      (plan current wished requested allowed).position := by
  have settled : ∀ (wish here shifted : Int32),
      (if wish ≠ (if wish ≠ here then shifted else wish) then shifted else wish) =
        if wish ≠ here then shifted else wish := by
    intro wish here shifted
    by_cases dragged : wish ≠ here
    · rw [if_pos dragged]
      by_cases short : wish ≠ shifted
      · rw [if_pos short]
      · rw [if_neg short]
        exact not_ne_iff.mp short
    · rw [if_neg dragged, if_neg (not_not_intro rfl)]
  unfold plan
  rw [settled, settled]

end Target

namespace Negotiation

/-- **A request that is repeated without a configure moves nothing**, and what it leaves of the
negotiation differs at most in a target that nobody waits for. -/
theorem request_again (negotiation : Negotiation) (start wished : Point) (requested allowed : Extent)
    (serial : Option Serial) :
    let once := negotiation.request (.plan start wished requested allowed) serial
    let here := once.2.getD start
    let again := once.1.request (.plan here wished requested allowed) none
    again.2.getD here = here ∧ again.1.gist = once.1.gist := by
  cases serial with
  | some serial => exact ⟨rfl, rfl⟩
  | none =>
    unfold request
    cases negotiation.awaited with
    | some awaited => exact ⟨rfl, rfl⟩
    | none => exact ⟨Target.plan_again start wished requested allowed, rfl⟩

end Negotiation

/-! ### Windows that are told everything -/

namespace Surface

/-- **A window is informed of a change**: it is wanted to be what the change asks for, and its newest
configure says so. -/
structure Informed (surface : Surface) (change : ToplevelState → ToplevelState) : Prop where
  /-- The change asks for nothing new. -/
  wanted : surface.setPending change = surface
  /-- Nothing is left to tell. -/
  told : surface.duePayload? false = none

variable {surface : Surface} {change : ToplevelState → ToplevelState}

theorem setPending_again (again : ∀ state, change (change state) = change state) :
    (surface.setPending change).setPending change = surface.setPending change := by
  cases role : surface.role <;> simp [setPending, role, Role.mapToplevel, again]

theorem setPending_of_window {toplevel : Toplevel} (window : surface.role = .toplevel toplevel) :
    (surface.setPending change).role =
      .toplevel { toplevel with pending := change toplevel.pending } := by
  simp only [setPending, window, Role.mapToplevel]

/-- A change that asks for nothing new does not look at what is in flight. -/
theorem setPending_inflight (wanted : surface.setPending change = surface)
    (inflight : List Configure) :
    { surface with inflight }.setPending change = { surface with inflight } := by
  have role := congrArg Surface.role wanted
  simp only [setPending] at role ⊢
  rw [role]

/-- The configure that is due leaves nothing to tell. -/
theorem duePayload?_scheduled {serials next : SerialCounter} {configure : Configure}
    {after : Surface} (sent : surface.schedule serials false = some (configure, after, next)) :
    after.duePayload? false = none := by
  obtain ⟨due, -, rfl, -⟩ := schedule_some sent
  unfold duePayload? at due ⊢
  cases role : surface.role with
  | unset => rfl
  | popup => rfl
  | toplevel toplevel =>
    have payload : configure.payload = .toplevel toplevel.pending := by
      simp only [role] at due
      split at due
      · cases due
      · exact (Option.some.inj due).symm
    simp [latestToplevelState?, payload, Payload.toplevel?]

end Surface

namespace Shell

variable {shell : Shell} {id : ViewId} {view : View} {surface : Surface} {toplevel : Toplevel}
  {change : ToplevelState → ToplevelState}

theorem changeView_self (found : shell.views.get? id = some view) {change : View → View}
    (keeps : change view = view) : shell.changeView id change = shell := by
  rw [changeView, Table.modify_self found keeps]

/-- A view that is released to where it is stays. -/
theorem land_self (found : shell.views.get? id = some view) {released : Option Point}
    (stays : released.getD view.position = view.position) : shell.land id released = shell := by
  cases released with
  | none => rfl
  | some position =>
    have here : view.position = position := stays.symm
    rw [land, Option.elim_some, placeView, found]
    exact if_pos here

/-- An informed window is told nothing, and stays as it is. -/
theorem propose_of_informed (stored : shell.surfaces.get? view.surface = some surface)
    (informed : surface.Informed change) : shell.propose view surface change = (shell, none) := by
  have silent : surface.schedule shell.serials false = none :=
    Surface.schedule_eq_none_iff.mpr informed.told
  rw [propose, informed.wanted, configure, silent]
  show (shell.putSurface view.surface surface, none) = (shell, none)
  rw [putSurface_self stored]

/-- **A call leaves the window informed**: whatever was due is now the newest configure. -/
theorem propose_informs (window : surface.role = .toplevel toplevel)
    {proposed : Shell × Option Serial} (proposes : shell.propose view surface change = proposed)
    (again : ∀ state, change (change state) = change state) :
    ∃ stored state, proposed.1.surfaces.get? view.surface = some stored ∧
      stored.role = .toplevel state ∧ state.bounds = toplevel.bounds ∧ stored.Informed change := by
  have role : (surface.setPending change).role =
      .toplevel { toplevel with pending := change toplevel.pending } :=
    Surface.setPending_of_window window
  rcases configure_cases shell view.surface (surface.setPending change) false with
    ⟨silent, same⟩ | ⟨configure, after, serials, sent, same⟩ <;>
    rw [propose, same] at proposes <;> subst proposes
  · refine ⟨surface.setPending change, _, ?_, role, rfl, ?_⟩
    · rw [putSurface, Table.get?_insert, if_pos rfl]
    · exact ⟨Surface.setPending_again again, Surface.schedule_eq_none_iff.mp silent⟩
  · obtain ⟨-, -, extended, -⟩ := Surface.schedule_some sent
    have wanted : after.setPending change = after := by
      rw [extended]
      exact Surface.setPending_inflight (Surface.setPending_again again) _
    have kept : after.role = .toplevel { toplevel with pending := change toplevel.pending } := by
      rw [extended]
      exact role
    refine ⟨after, _, ?_, kept, rfl, wanted, Surface.duePayload?_scheduled sent⟩
    simp only [send, putSurface]
    rw [Table.get?_insert, if_pos rfl]

theorem propose_views (shell : Shell) (view : View) (surface : Surface)
    (change : ToplevelState → ToplevelState) :
    (shell.propose view surface change).1.views = shell.views := by
  rw [propose]
  rcases configure_cases shell view.surface (surface.setPending change) false with
    ⟨-, same⟩ | ⟨_, _, _, -, same⟩ <;> rw [same] <;> rfl

/-! ### The same call once more -/

/-- What a call asks of the state of a window it does not ask for a second time. -/
theorem change?_again {call : WindowCall} {bounds : SizeBounds}
    (asked : call.change? bounds = some change) (state : ToplevelState) :
    change (change state) = change state := by
  cases call with
  | close | destroy => cases asked
  | _ => obtain rfl := Option.some.inj asked; rfl

/-- A call that does not move the view proposes a state, and nothing else. -/
theorem call_of_asked {call : WindowCall} (window : shell.window? id = some (view, surface, toplevel))
    (asked : call.change? toplevel.bounds = some change)
    (stays : ∀ position size, call ≠ .moveResize position size) :
    shell.call id call = (shell.propose view surface change).1 := by
  cases call with
  | close | destroy => cases asked
  | moveResize position size => exact absurd rfl (stays position size)
  | _ =>
    obtain rfl := Option.some.inj asked
    simp only [Shell.call, onWindow, window]

/-! ### Moves that are made twice -/

/-- Gives a view a new state of its negotiation, and puts it where it is released to. -/
def negotiate (shell : Shell) (id : ViewId) (answer : Negotiation × Option Point) : Shell :=
  (shell.changeView id fun view => { view with negotiation := answer.1 }).land id answer.2

theorem negotiate_view (found : shell.views.get? id = some view)
    (answer : Negotiation × Option Point) :
    (shell.negotiate id answer).views.get? id =
      some { view with negotiation := answer.1, position := answer.2.getD view.position } :=
  land_view (changeView_view found _) answer.2

theorem negotiate_surfaces (shell : Shell) (id : ViewId) (answer : Negotiation × Option Point) :
    (shell.negotiate id answer).surfaces = shell.surfaces :=
  surfaces_of_clientSide (land_clientSide _ _ _)

/-- An answer that keeps a view where it is, and whose negotiation differs at most in a target nobody
waits for, cannot be told from no answer. -/
theorem negotiate_indistinct (found : shell.views.get? id = some view)
    {answer : Negotiation × Option Point} (stays : answer.2.getD view.position = view.position)
    (same : answer.1.gist = view.negotiation.gist) :
    shell.Indistinct (shell.negotiate id answer) := by
  unfold Indistinct negotiate
  rw [land_self (changeView_view found _) stays, negotiate_gist, same]
  exact (changeView_self (gist_view_of_some found) rfl).symm

/-- A move is a proposal followed by a negotiation. -/
theorem moveResize_eq_negotiate (shell : Shell) (id : ViewId) (view : View) (surface : Surface)
    (bounds : SizeBounds) (position : Point) (size : Extent) {proposed : Shell × Option Serial}
    (proposes : (shell.propose view surface fun state =>
      { state with size := bounds.constrain size }) = proposed) :
    shell.moveResize id view surface bounds position size =
      proposed.1.negotiate id (view.negotiation.request
        (.plan view.position position size (bounds.constrain size)) proposed.2) := by
  rw [moveResize_eq, proposes]
  rfl

/-- **A move that is made twice.** The second plan leads to where the first one put the view, so that
only the target is replaced, and only where nobody waits for it. -/
theorem moveResize_indistinct (window : shell.window? id = some (view, surface, toplevel))
    (position : Point) (size : Extent) :
    ∃ moved stored state,
      (shell.moveResize id view surface toplevel.bounds position size).window? id =
          some (moved, stored, state) ∧
        (shell.moveResize id view surface toplevel.bounds position size).Indistinct
          ((shell.moveResize id view surface toplevel.bounds position size).moveResize id moved stored
            state.bounds position size) := by
  obtain ⟨live, present, role⟩ := window?_eq_some.mp window
  obtain ⟨proposed, proposes⟩ : ∃ proposed, shell.propose view surface (fun state =>
    { state with size := toplevel.bounds.constrain size }) = proposed := ⟨_, rfl⟩
  obtain ⟨stored, state, kept, still, bounds, informed⟩ :=
    propose_informs role proposes fun _ => rfl
  have found : proposed.1.views.get? id = some view := by
    rw [← proposes, propose_views, live]
  rw [moveResize_eq_negotiate shell id view surface toplevel.bounds position size proposes]
  obtain ⟨stays, same⟩ := view.negotiation.request_again view.position position size
    (toplevel.bounds.constrain size) proposed.2
  generalize view.negotiation.request
    (.plan view.position position size (toplevel.bounds.constrain size)) proposed.2 = answer at *
  have stands : (proposed.1.negotiate id answer).surfaces.get? view.surface = some stored := by
    rw [negotiate_surfaces, kept]
  have moved := negotiate_view found answer
  refine ⟨_, stored, state, window?_eq_some.mpr ⟨moved, stands, still⟩, ?_⟩
  rw [bounds, moveResize_eq_negotiate _ id
    { view with negotiation := answer.1, position := answer.2.getD view.position } stored
    toplevel.bounds position size (propose_of_informed stands informed)]
  exact negotiate_indistinct moved stays same

/-- **The shells after one and after two calls cannot be told apart.** -/
theorem call_indistinct (shell : Shell) (id : ViewId) {call : WindowCall} (asks : call ≠ .close)
    (keeps : call ≠ .destroy) :
    Indistinct (shell.call id call) ((shell.call id call).call id call) := by
  generalize result : shell.call id call = once
  have carried : Carried shell id call once := result ▸ call_carried shell id call
  cases carried with
  | forget => exact absurd rfl keeps
  | close => exact absurd rfl asks
  | miss absent => rw [result]; rfl
  | @propose _ view surface toplevel change window asked stays =>
    obtain ⟨live, present, role⟩ := window?_eq_some.mp window
    obtain ⟨stored, state, kept, still, bounds, informed⟩ :=
      propose_informs role rfl (change?_again asked)
    have found : (shell.propose view surface change).1.views.get? id = some view := by
      rw [propose_views, live]
    have same := call_of_asked (window?_eq_some.mpr ⟨found, kept, still⟩) (bounds ▸ asked) stays
    rw [same, propose_of_informed kept informed]
    rfl
  | moveResize position size window =>
    obtain ⟨moved, stored, state, found, alike⟩ := moveResize_indistinct window position size
    have again : ∀ shell : Shell, shell.window? id = some (moved, stored, state) →
        shell.call id (.moveResize position size) =
          shell.moveResize id moved stored state.bounds position size := by
      intro shell window
      simp only [Shell.call, onWindow, window]
    rw [again _ found]
    exact alike

/-- **A call that is made twice in a row does what it does once.** The second call sends nothing and
allocates no serial, it tells the desktop nothing, and it changes no surface, no popup and no listener; of
the views it changes at most the target of one that nobody waits for. Nor does it matter later: whatever
is done next is answered alike, and the same is reported in the end. -/
theorem call_again {shell once twice : Shell} {id : ViewId} {call : WindowCall} (asks : call ≠ .close)
    (keeps : call ≠ .destroy) (first : shell.call id call = once) (second : once.call id call = twice) :
    twice.outbox = once.outbox ∧ twice.serials = once.serials ∧ twice.desktop = once.desktop ∧
      twice.surfaces = once.surfaces ∧ twice.popups = once.popups ∧ twice.registry = once.registry ∧
      (∀ other view, once.views.get? other = some view → ∃ target,
        twice.views.get? other =
            some { view with negotiation := { view.negotiation with target } } ∧
          (target = view.negotiation.target ∨ view.negotiation.awaited = none)) ∧
      (∀ acts act, ((twice.performAll acts).perform act).fault =
        ((once.performAll acts).perform act).fault) ∧
      (∀ acts errors, Report.of (twice.performAll acts) errors =
        Report.of (once.performAll acts) errors) := by
  subst first second
  have alike := call_indistinct shell id asks keeps
  have outbox := alike.same outbox fun _ => rfl
  have serials := alike.same serials fun _ => rfl
  refine ⟨outbox.symm, serials.symm, alike.desktop.symm, alike.surfaces.symm, alike.popups.symm,
    alike.registry.symm, fun other view found => ?_, fun acts act => ?_, fun acts errors => ?_⟩
  · obtain ⟨after, kept, same⟩ := alike.view found
    obtain ⟨target, rfl, idle⟩ := View.eq_of_gist same
    exact ⟨target, kept, idle⟩
  · exact ((alike.performAll acts).perform act).2.symm
  · exact ((alike.performAll acts).report errors).symm

/-- A visible window that has taken the least size it allows itself. -/
def smallestWindow : List Act :=
  [ .request (.newToplevel ⟨1⟩), .request (.setMinSize ⟨1⟩ { width := 300, height := 100 }),
    .request (.commit ⟨1⟩ {}), .request (.ack ⟨1⟩ 1),
    .request (.commit ⟨1⟩ { buffer := .attach { width := 300, height := 100 } }),
    .call ⟨1⟩ (.resize { width := 300, height := 100 }), .request (.ack ⟨1⟩ 2),
    .request (.commit ⟨1⟩ {}) ]

/-- It is asked to end at two hundred and ten and to be smaller than it can be, so it starts a hundred
further left than asked. Asked again, it is not told to move again. -/
theorem call_again_smallestWindow :
    let move := WindowCall.moveResize { x := 10, y := 0 } { width := 200, height := 50 }
    let shell := (fresh { pingOnCreate := false } .empty 0).performAll smallestWindow
    ((shell.call ⟨1⟩ move).views.get? ⟨1⟩).map View.position = some { x := -90, y := 0 } ∧
      (shell.call ⟨1⟩ move).outbox = shell.outbox ∧
      ((shell.call ⟨1⟩ move).call ⟨1⟩ move).outbox = (shell.call ⟨1⟩ move).outbox ∧
      ((shell.call ⟨1⟩ move).call ⟨1⟩ move).desktop = (shell.call ⟨1⟩ move).desktop ∧
      (((shell.call ⟨1⟩ move).call ⟨1⟩ move).views.get? ⟨1⟩).map View.position =
        some { x := -90, y := 0 } := by
  intro move shell
  obtain ⟨outbox, -, desktop, -, -, -, views, -⟩ :=
    call_again (by decide) (by decide) (rfl : shell.call ⟨1⟩ move = _) rfl
  obtain ⟨view, found, place⟩ : ∃ view, (shell.call ⟨1⟩ move).views.get? ⟨1⟩ = some view ∧
      view.position = { x := -90, y := 0 } := ⟨_, rfl, by decide⟩
  obtain ⟨target, kept, -⟩ := views ⟨1⟩ view found
  refine ⟨?_, by decide, outbox, desktop, ?_⟩
  · rw [found, Option.map_some, place]
  · rw [kept, Option.map_some, place]

end Shell

end WindowShell
