/-
**Targets that nobody waits for.**

A negotiation keeps the target of its latest request even when nothing is awaited, but nobody ever reads it
then: the next request replaces it, and a commit releases a target only while one is awaited. So two shells
that differ in nothing but such targets cannot be told apart. Whatever happens to both of them, the same
requests are rejected, the same messages are posted, the same is told to the desktop, and they still
differ in nothing else:

* `Negotiation.gist`, `Shell.gist`: what still matters of a negotiation, and of a shell;
* `changeView_gist` to `viewCommitted_gist`: each operation works on the gist alone;
* `Indistinct`: two shells with the same gist; `Indistinct.emit`: a signal on two such shells;
* `ShellM.Impartial`: an attempt goes the same way on both; `Impartial.bind`, `impartial_destroy`: also one
  that is made of such attempts, as the destruction of a surface is;
* `Indistinct.perform`: any act on two such shells;
* `Indistinct.performAll`, `Indistinct.report`: any run, and what is reported in the end.
-/

import WindowShell.Proofs.Placement

namespace WindowShell

namespace Negotiation

/-- What still matters of a negotiation: its target only while something is awaited. -/
def gist (negotiation : Negotiation) : Negotiation :=
  match negotiation.awaited with
  | none => {}
  | some _ => negotiation

theorem gist_of_idle {negotiation : Negotiation} (idle : negotiation.awaited = none) :
    negotiation.gist = {} := by
  rw [gist, idle]

theorem gist_of_awaited {negotiation : Negotiation} {serial : Serial}
    (waiting : negotiation.awaited = some serial) : negotiation.gist = negotiation := by
  rw [gist, waiting]

theorem gist_awaited (negotiation : Negotiation) :
    negotiation.gist.awaited = negotiation.awaited := by
  cases waiting : negotiation.awaited with
  | none => rw [gist_of_idle waiting]
  | some serial => rw [gist_of_awaited waiting, waiting]

theorem gist_gist (negotiation : Negotiation) : negotiation.gist.gist = negotiation.gist := by
  cases waiting : negotiation.awaited with
  | none => rw [gist_of_idle waiting, gist_of_idle rfl]
  | some serial => rw [gist_of_awaited waiting, gist_of_awaited waiting]

/-- Negotiations with one gist differ at most in their targets, and only if nothing is awaited. -/
theorem eq_of_gist {first second : Negotiation} (same : second.gist = first.gist) :
    ∃ target, second = { first with target } ∧ (target = first.target ∨ first.awaited = none) := by
  have awaited : second.awaited = first.awaited := by rw [← gist_awaited, same, gist_awaited]
  by_cases idle : first.awaited = none
  · refine ⟨second.target, ?_, .inr idle⟩
    rw [← awaited]
  · obtain ⟨serial, waiting⟩ := Option.ne_none_iff_exists'.mp idle
    rw [gist_of_awaited waiting, gist_of_awaited (awaited.trans waiting)] at same
    exact ⟨first.target, same, .inl rfl⟩

/-- A request replaces the target, whatever it was. -/
theorem request_gist (negotiation : Negotiation) (target : Target) (serial : Option Serial) :
    negotiation.gist.request target serial = negotiation.request target serial := by
  unfold request
  rw [gist_awaited]

/-- A commit reads the target only while something is awaited. -/
theorem reconcile_gist (negotiation : Negotiation) (acked : Option Serial) (current : Point)
    (committed : Size) :
    (negotiation.gist.reconcile acked current committed).1.gist =
        (negotiation.reconcile acked current committed).1.gist ∧
      (negotiation.gist.reconcile acked current committed).2 =
        (negotiation.reconcile acked current committed).2 := by
  cases waiting : negotiation.awaited with
  | none =>
    have rests : negotiation.reconcile acked current committed = (negotiation, none) := by
      unfold reconcile
      rw [waiting]
    rw [rests, gist_of_idle waiting]
    exact ⟨rfl, rfl⟩
  | some awaited =>
    rw [gist_of_awaited waiting]
    exact ⟨rfl, rfl⟩

end Negotiation

/-- What still matters of a view. -/
def View.gist (view : View) : View := { view with negotiation := view.negotiation.gist }

theorem View.gist_gist (view : View) : view.gist.gist = view.gist := by
  rw [gist, gist, Negotiation.gist_gist]

/-- Views with one gist differ at most in their targets, and only if nothing is awaited. -/
theorem View.eq_of_gist {first second : View} (same : second.gist = first.gist) :
    ∃ target, second = { first with negotiation := { first.negotiation with target } } ∧
      (target = first.negotiation.target ∨ first.negotiation.awaited = none) := by
  obtain ⟨target, shape, idle⟩ := Negotiation.eq_of_gist (congrArg View.negotiation same)
  refine ⟨target, ?_, idle⟩
  rw [← shape]
  cases first
  cases second
  simp only [gist, View.mk.injEq] at same ⊢
  exact ⟨same.1, same.2.1, same.2.2.1, trivial, same.2.2.2.2⟩

namespace Shell

/-- What still matters of a shell. -/
def gist (shell : Shell) : Shell := { shell with views := shell.views.mapValues View.gist }

theorem gist_gist (shell : Shell) : shell.gist.gist = shell.gist := by
  have views : (shell.views.mapValues View.gist).mapValues View.gist =
      shell.views.mapValues View.gist := by
    rw [Table.mapValues_mapValues]
    exact congrArg shell.views.mapValues (funext View.gist_gist)
  rw [gist, gist, views]

/-! ### Views -/

theorem gist_view (shell : Shell) (id : ViewId) :
    shell.gist.views.get? id = (shell.views.get? id).map View.gist :=
  Table.get?_mapValues _ _ _

theorem gist_view_of_none {shell : Shell} {id : ViewId} (absent : shell.views.get? id = none) :
    shell.gist.views.get? id = none := by
  rw [gist_view, absent, Option.map_none]

theorem gist_view_of_some {shell : Shell} {id : ViewId} {view : View}
    (found : shell.views.get? id = some view) : shell.gist.views.get? id = some view.gist := by
  rw [gist_view, found, Option.map_some]

/-- A change of a view whose outcome looks like that of another change of its gist. -/
theorem changeView_gist (shell : Shell) (id : ViewId) {change shown : View → View}
    (same : ∀ view, (change view).gist = shown view.gist) :
    (shell.changeView id change).gist = shell.gist.changeView id shown := by
  rw [changeView, gist, changeView, gist, Table.mapValues_modify same]

theorem tell_gist (shell : Shell) (event : Event) : (shell.tell event).gist = shell.gist.tell event :=
  rfl

theorem placeView_gist (shell : Shell) (id : ViewId) (position : Point) :
    (shell.placeView id position).gist = shell.gist.placeView id position := by
  cases found : shell.views.get? id with
  | none => simp only [placeView, found, gist_view_of_none found]
  | some view =>
    have place : view.gist.position = view.position := rfl
    simp only [placeView, found, gist_view_of_some found, place]
    split
    · rfl
    · rw [tell_gist]
      congr 1
      exact changeView_gist shell id fun _ => rfl

theorem land_gist (shell : Shell) (id : ViewId) (released : Option Point) :
    (shell.land id released).gist = shell.gist.land id released := by
  cases released with
  | none => rfl
  | some position => exact placeView_gist shell id position

theorem viewListeners_gist (shell : Shell) (id : ViewId) :
    shell.gist.viewListeners id = shell.viewListeners id := by
  rw [viewListeners, gist_view, viewListeners]
  cases shell.views.get? id <;> rfl

theorem createView_gist (shell : Shell) (surface : SurfaceId) :
    (shell.createView surface).gist = shell.gist.createView surface := by
  have size : shell.gist.views.size = shell.views.size := Table.size_mapValues _ _
  by_cases fits : shell.settings.viewFits shell.views.size
  · have also : shell.gist.settings.viewFits shell.gist.views.size := by rw [size]; exact fits
    rw [createView, if_pos fits, createView, if_pos also]
    rcases created : shell.desktop.createView with ⟨desktop, _ | id⟩
    · have there : shell.gist.desktop.createView = (desktop, none) := created
      simp only [there]
      rfl
    · have there : shell.gist.desktop.createView = (desktop, some id) := created
      simp only [there, viewListeners_gist]
      rw [gist]
      simp only [Table.mapValues_insert]
      rfl
  · have also : ¬ shell.gist.settings.viewFits shell.gist.views.size := by rw [size]; exact fits
    rw [createView, if_neg fits, createView, if_neg also]

theorem createPopup_gist (shell : Shell) (id : ViewId) (surface : SurfaceId) :
    (shell.createPopup id surface).gist = shell.gist.createPopup id surface := by
  cases found : shell.views.get? id with
  | none => simp only [createPopup, found, gist_view_of_none found]
  | some view =>
    have popups : view.gist.popups = view.popups := rfl
    have settings : shell.gist.settings = shell.settings := rfl
    simp only [createPopup, found, gist_view_of_some found, popups, settings]
    split
    · rw [gist]
      congr 1
      refine Table.mapValues_modify ?_ id
      exact fun _ => rfl
    · rfl

theorem forgetPopup_gist (shell : Shell) (id : PopupId) :
    (shell.forgetPopup id).gist = shell.gist.forgetPopup id := by
  have popups : shell.gist.popups = shell.popups := rfl
  unfold forgetPopup
  rw [popups]
  cases found : shell.popups.get? id with
  | none => rfl
  | some popup =>
    simp only [gist]
    congr 1
    refine Table.mapValues_modify ?_ popup.view
    exact fun _ => rfl

/-- A fold works on the gist alone if its step does. -/
theorem foldl_gist {ι : Type} {step : Shell → ι → Shell}
    (follows : ∀ shell item, (step shell item).gist = step shell.gist item) (shell : Shell)
    (items : List ι) : (items.foldl step shell).gist = items.foldl step shell.gist := by
  induction items generalizing shell with
  | nil => rfl
  | cons item items ih => rw [List.foldl_cons, List.foldl_cons, ih, follows]

theorem forgetView_gist (shell : Shell) (id : ViewId) :
    (shell.forgetView id).gist = shell.gist.forgetView id := by
  cases found : shell.views.get? id with
  | none => simp only [forgetView, found, gist_view_of_none found]
  | some view =>
    have popups : view.gist.popups = view.popups := rfl
    simp only [forgetView, found, gist_view_of_some found, popups]
    rw [foldl_gist forgetPopup_gist]
    simp only [gist, Table.mapValues_erase]
    rfl

/-! ### Signals -/

theorem viewMapped_gist (shell : Shell) (id : ViewId) :
    (shell.viewMapped id).gist = shell.gist.viewMapped id := by
  cases found : shell.views.get? id with
  | none => simp only [viewMapped, found, gist_view_of_none found]
  | some view =>
    have wrapped : view.gist.surface = view.surface := rfl
    have shown : view.gist.mapped = view.mapped := rfl
    have surfaces : shell.gist.surfaces = shell.surfaces := rfl
    simp only [viewMapped, found, gist_view_of_some found, wrapped, shown, surfaces]
    cases shell.surfaces.get? view.surface with
    | none => rfl
    | some surface =>
      simp only []
      split
      · exact changeView_gist shell id fun _ => rfl
      · rw [tell_gist]
        congr 1
        exact changeView_gist shell id fun _ => rfl

theorem viewUnmapped_gist (shell : Shell) (id : ViewId) :
    (shell.viewUnmapped id).gist = shell.gist.viewUnmapped id := by
  cases found : shell.views.get? id with
  | none => simp only [viewUnmapped, found, gist_view_of_none found]
  | some view =>
    have shown : view.gist.mapped = view.mapped := rfl
    simp only [viewUnmapped, found, gist_view_of_some found, shown]
    split
    · rw [tell_gist]
      congr 1
      exact changeView_gist shell id fun _ => rfl
    · rfl

theorem viewDestroyed_gist (shell : Shell) (id : ViewId) :
    (shell.viewDestroyed id).gist = shell.gist.viewDestroyed id := by
  cases found : shell.views.get? id with
  | none => simp only [viewDestroyed, found, gist_view_of_none found]
  | some view =>
    have shown : view.gist.mapped = view.mapped := rfl
    simp only [viewDestroyed, found, gist_view_of_some found, shown, ← forgetView_gist]
    split <;> rfl

theorem settle_gist (shell : Shell) (id : ViewId) (size : Size) (negotiation : Negotiation) :
    (shell.changeView id fun view => { view with size, negotiation }).gist =
      shell.gist.changeView id fun view => { view with size, negotiation := negotiation.gist } :=
  changeView_gist shell id fun _ => rfl

/-- A commit may leave a target that nobody waits for any more. -/
theorem viewCommitted_gist (shell : Shell) (id : ViewId) :
    (shell.viewCommitted id).gist = (shell.gist.viewCommitted id).gist := by
  cases found : shell.views.get? id with
  | none =>
    simp only [viewCommitted, found, gist_view_of_none found]
    exact (gist_gist shell).symm
  | some view =>
    have also := gist_view_of_some found
    cases present : shell.surfaces.get? view.surface with
    | none =>
      have there : shell.gist.surfaces.get? view.gist.surface = none := present
      simp only [viewCommitted, found, also, present, there]
      exact (gist_gist shell).symm
    | some surface =>
      have there : shell.gist.surfaces.get? view.gist.surface = some surface := present
      by_cases mapped : surface.mapped
      · obtain ⟨after, released⟩ := view.negotiation.reconcile_gist surface.configureSerial
          view.position surface.contentSize
        rw [viewCommitted_of_mapped found present mapped, viewCommitted_of_mapped also there mapped]
        have negotiation : view.gist.negotiation = view.negotiation.gist := rfl
        have place : view.gist.position = view.position := rfl
        simp only [tell_gist, land_gist, settle_gist, gist_gist, negotiation, place, after, released]
      · rw [viewCommitted_of_hidden found present mapped, viewCommitted_of_hidden also there mapped]
        exact (gist_gist shell).symm

/-! ### Calls -/

theorem window?_gist (shell : Shell) (id : ViewId) :
    shell.gist.window? id = (shell.window? id).map fun found => (found.1.gist, found.2) := by
  unfold window?
  rw [gist_view]
  cases shell.views.get? id with
  | none => rfl
  | some view =>
    show (shell.surfaces.get? view.surface >>= fun surface => _) = _
    simp only [Option.bind_eq_bind, Option.bind_some]
    cases shell.surfaces.get? view.surface with
    | none => rfl
    | some surface =>
      simp only [Option.bind_some]
      cases surface.role.toplevel? <;> rfl

theorem configure_gist (shell : Shell) (id : SurfaceId) (surface : Surface) (force : Bool) :
    shell.gist.configure id surface force =
      ((shell.configure id surface force).1.gist, (shell.configure id surface force).2) := by
  have serials : shell.gist.serials = shell.serials := rfl
  unfold configure
  rw [serials]
  split <;> rfl

theorem propose_gist (shell : Shell) (view : View) (surface : Surface)
    (change : ToplevelState → ToplevelState) :
    shell.gist.propose view.gist surface change =
      ((shell.propose view surface change).1.gist, (shell.propose view surface change).2) :=
  configure_gist _ _ _ _

theorem negotiate_gist (shell : Shell) (id : ViewId) (negotiation : Negotiation) :
    (shell.changeView id fun view => { view with negotiation }).gist =
      shell.gist.changeView id fun view => { view with negotiation := negotiation.gist } :=
  changeView_gist shell id fun _ => rfl

/-- A request to a negotiation reads nothing of it but what is awaited. -/
theorem moveResize_gist (shell : Shell) (id : ViewId) (view : View) (surface : Surface)
    (bounds : SizeBounds) (position : Point) (size : Extent) :
    (shell.moveResize id view surface bounds position size).gist =
      (shell.gist.moveResize id view.gist surface bounds position size).gist := by
  have negotiation : view.gist.negotiation = view.negotiation.gist := rfl
  have place : view.gist.position = view.position := rfl
  simp only [moveResize_eq, propose_gist, land_gist, negotiate_gist, gist_gist, negotiation, place,
    Negotiation.request_gist]

theorem call_of_no_window {shell : Shell} {id : ViewId} {call : WindowCall}
    (absent : shell.window? id = none) (keeps : call ≠ .destroy) : shell.call id call = shell := by
  cases call with
  | destroy => exact absurd rfl keeps
  | _ => simp only [Shell.call, onWindow, absent]

/-- A call works on the gist alone. -/
theorem call_gist (shell : Shell) (id : ViewId) (call : WindowCall) :
    (shell.call id call).gist = (shell.gist.call id call).gist := by
  by_cases forgets : call = .destroy
  · subst forgets
    show (shell.forgetView id).gist = (shell.gist.forgetView id).gist
    rw [forgetView_gist, forgetView_gist, gist_gist]
  cases window : shell.window? id with
  | none =>
    have also : shell.gist.window? id = none := by rw [window?_gist, window, Option.map_none]
    rw [call_of_no_window window forgets, call_of_no_window also forgets, gist_gist]
  | some found =>
    have also : shell.gist.window? id = some (found.1.gist, found.2) := by
      rw [window?_gist, window, Option.map_some]
    cases call with
    | destroy => exact absurd rfl forgets
    | moveResize position size =>
      simp only [Shell.call, onWindow, window, also]
      exact moveResize_gist shell id found.1 found.2.1 found.2.2.bounds position size
    | close =>
      simp only [Shell.call, onWindow, window, also]
      exact (gist_gist (shell.closeWindow found.1 found.2.1)).symm
    | _ => simp only [Shell.call, onWindow, window, also, propose_gist, gist_gist]

/-! ### Shells that cannot be told apart -/

/-- **Two shells cannot be told apart**: they differ in nothing but targets that nobody waits for. -/
def Indistinct (first second : Shell) : Prop := first.gist = second.gist

end Shell

/-- Two answers cannot be told apart: neither their shells nor their faults can. -/
def Reply.Indistinct (first second : Reply) : Prop :=
  first.shell.Indistinct second.shell ∧ first.fault = second.fault

namespace Shell

variable {first second : Shell}

namespace Indistinct

/-- What does not look at a target is the same for both. -/
theorem same {β : Type} (alike : Indistinct first second) (look : Shell → β)
    (blind : ∀ shell, look shell.gist = look shell) : look first = look second := by
  rw [← blind, alike, blind]

theorem desktop (alike : Indistinct first second) : first.desktop = second.desktop :=
  alike.same Shell.desktop fun _ => rfl

theorem surfaces (alike : Indistinct first second) : first.surfaces = second.surfaces :=
  alike.same Shell.surfaces fun _ => rfl

theorem popups (alike : Indistinct first second) : first.popups = second.popups :=
  alike.same Shell.popups fun _ => rfl

theorem registry (alike : Indistinct first second) : first.registry = second.registry :=
  alike.same Shell.registry fun _ => rfl

/-- A view that one has the other has too, with the same gist. -/
theorem view (alike : Indistinct first second) {id : ViewId} {view : View}
    (found : first.views.get? id = some view) :
    ∃ other, second.views.get? id = some other ∧ other.gist = view.gist := by
  have shown : second.gist.views.get? id = some view.gist := by
    rw [← alike]
    exact gist_view_of_some found
  rw [gist_view] at shown
  exact Option.map_eq_some_iff.mp shown

/-- An operation that works on the gist alone cannot tell two shells apart. -/
theorem of_gist (act : Shell → Shell) (follows : ∀ shell, (act shell).gist = act shell.gist)
    (alike : Indistinct first second) : Indistinct (act first) (act second) := by
  unfold Indistinct
  rw [follows, follows, alike]

/-- A fold cannot tell two shells apart if its step cannot. -/
theorem foldl {ι : Type} {step : Shell → ι → Shell}
    (follows : ∀ {first second : Shell} (item : ι), Indistinct first second →
      Indistinct (step first item) (step second item))
    (alike : Indistinct first second) (items : List ι) :
    Indistinct (items.foldl step first) (items.foldl step second) := by
  induction items generalizing first second with
  | nil => exact alike
  | cons item items ih => exact ih (follows item alike)

/-! ### Signals to both -/

theorem tell (alike : Indistinct first second) (event : Event) :
    Indistinct (first.tell event) (second.tell event) :=
  alike.of_gist (·.tell event) fun _ => rfl

/-- What a view does on a signal does not depend on targets that nobody waits for. -/
theorem deliverToView (alike : Indistinct first second) (id : ViewId) (signal : Signal) :
    Indistinct (first.deliverToView id signal) (second.deliverToView id signal) := by
  cases signal with
  | commit =>
    unfold Indistinct Shell.deliverToView
    rw [viewCommitted_gist, alike, ← viewCommitted_gist]
  | map => exact alike.of_gist (·.viewMapped id) (viewMapped_gist · id)
  | unmap => exact alike.of_gist (·.viewUnmapped id) (viewUnmapped_gist · id)
  | destroy => exact alike.of_gist (·.viewDestroyed id) (viewDestroyed_gist · id)
  | newPopup surface => exact alike.of_gist (·.createPopup id surface) (createPopup_gist · id surface)
  | requestMove seat | requestResize seat edges =>
    simp only [Shell.deliverToView, alike.desktop]
    split
    · exact alike.tell _
    · exact alike
  | requestMaximize maximized => exact alike.tell _
  | requestFullscreen fullscreen output => exact alike.tell _

theorem changePopup (alike : Indistinct first second) (id : PopupId) (change : Popup → Popup) :
    Indistinct (first.changePopup id change) (second.changePopup id change) :=
  alike.of_gist (·.changePopup id change) fun _ => rfl

theorem deliverToPopup (alike : Indistinct first second) (id : PopupId) (signal : Signal) :
    Indistinct (first.deliverToPopup id signal) (second.deliverToPopup id signal) := by
  unfold Shell.deliverToPopup
  rw [alike.popups]
  cases second.popups.get? id with
  | none => exact alike
  | some popup =>
    cases signal with
    | commit => exact alike.tell _
    | map | unmap => exact (alike.changePopup id _).tell _
    | destroy => exact alike.of_gist (·.forgetPopup id) (forgetPopup_gist · id)
    | newPopup surface =>
      exact alike.of_gist (·.createPopup popup.view surface) (createPopup_gist · popup.view surface)
    | requestMove | requestResize | requestMaximize | requestFullscreen => exact alike

/-- **A signal of a surface has the same listeners in both shells**, and each does the same. -/
theorem emit (alike : Indistinct first second) (surface : SurfaceId) (signal : Signal) :
    Indistinct (first.emit surface signal) (second.emit surface signal) := by
  unfold Shell.emit
  rw [alike.registry]
  refine alike.foldl (fun listener alike => ?_) _
  rw [alike.registry]
  split
  · cases listener.2 with
    | view id => exact alike.deliverToView id signal
    | popup id => exact alike.deliverToPopup id signal
  · exact alike

/-! ### Changes of both -/

theorem putSurface (alike : Indistinct first second) (id : SurfaceId) (surface : Surface) :
    Indistinct (first.putSurface id surface) (second.putSurface id surface) :=
  alike.of_gist (·.putSurface id surface) fun _ => rfl

theorem ping (alike : Indistinct first second) (id : SurfaceId) :
    Indistinct (first.ping id) (second.ping id) := by
  refine alike.of_gist (·.ping id) fun shell => ?_
  unfold Shell.ping
  have settings : shell.gist.settings = shell.settings := rfl
  rw [settings]
  split <;> rfl

theorem configure (alike : Indistinct first second) (id : SurfaceId) (surface : Surface)
    (force : Bool) :
    Indistinct (first.configure id surface force).1 (second.configure id surface force).1 :=
  alike.of_gist (fun shell => (shell.configure id surface force).1) fun shell => by
    rw [configure_gist]

theorem committed (alike : Indistinct first second) (id : SurfaceId) (effect : CommitEffect) :
    Indistinct (first.committed id effect) (second.committed id effect) := by
  unfold Shell.committed
  refine emit ?_ id .commit
  cases effect with
  | settled => exact alike
  | mapped => exact alike.emit id .map
  | unmapped => exact alike.emit id .unmap
  | needsConfigure =>
    rw [alike.surfaces]
    cases second.surfaces.get? id with
    | none => exact alike
    | some surface => exact alike.configure id surface true

theorem removeSurface (alike : Indistinct first second) (id : SurfaceId) :
    Indistinct (first.removeSurface id) (second.removeSurface id) := by
  unfold Shell.removeSurface
  rw [alike.surfaces]
  cases second.surfaces.get? id with
  | none => exact alike
  | some surface =>
    have hidden : Indistinct
        (if surface.mapped then (first.putSurface id surface.hide).emit id .unmap
          else first.putSurface id surface.hide)
        (if surface.mapped then (second.putSurface id surface.hide).emit id .unmap
          else second.putSurface id surface.hide) := by
      split
      · exact (alike.putSurface id surface.hide).emit id .unmap
      · exact alike.putSurface id surface.hide
    exact (hidden.emit id .destroy).of_gist
      (fun announced => { announced with surfaces := announced.surfaces.erase id }) fun _ => rfl

end Indistinct

end Shell

/-! ### Requests to both -/

namespace ShellM

open Shell

variable {ι α β : Type}

/-- **An attempt goes the same way** on two shells that cannot be told apart, and it leaves two such
shells. -/
def Impartial (act : ShellM α) : Prop :=
  ∀ first second : Shell, first.Indistinct second →
    (act.runOn first).1 = (act.runOn second).1 ∧ (act.runOn first).2.Indistinct (act.runOn second).2

theorem impartial_pure (value : α) : Impartial (pure value : ShellM α) := fun _ _ alike => ⟨rfl, alike⟩

theorem impartial_throw (fault : Fault) : Impartial (throw fault : ShellM α) :=
  fun _ _ alike => ⟨rfl, alike⟩

theorem impartial_modify {change : Shell → Shell}
    (follows : ∀ {first second : Shell}, first.Indistinct second →
      (change first).Indistinct (change second)) : Impartial (modify change) :=
  fun _ _ alike => ⟨rfl, follows alike⟩

theorem Impartial.bind {act : ShellM α} {next : α → ShellM β} (begins : Impartial act)
    (goes : ∀ value, Impartial (next value)) : Impartial (act >>= next) := by
  intro first second alike
  obtain ⟨same, left⟩ := begins first second alike
  rw [Attempt.runOn_bind, Attempt.runOn_bind]
  generalize act.runOn first = one, act.runOn second = two at same left
  obtain ⟨outcome, _⟩ := one
  obtain ⟨_, _⟩ := two
  obtain rfl : outcome = _ := same
  cases outcome with
  | ok value => exact goes value _ _ left
  | error fault => exact ⟨rfl, left⟩

/-- An attempt may look at what is the same for both. -/
theorem impartial_reading {next : Shell → ShellM α}
    (same : ∀ {first second : Shell}, first.Indistinct second → next first = next second)
    (goes : ∀ shell, Impartial (next shell)) : Impartial (get >>= next) := by
  intro first second alike
  simp only [Attempt.runOn_bind, Attempt.runOn_get]
  rw [same alike]
  exact goes second first second alike

theorem impartial_ite {act other : ShellM α} (condition : Prop) [Decidable condition]
    (begins : Impartial act) (otherwise : Impartial other) :
    Impartial (if condition then act else other) := by
  split
  · exact begins
  · exact otherwise

theorem impartial_forM {step : ι → ShellM Unit} (each : ∀ item, Impartial (step item)) (items : List ι) :
    Impartial (forM items step) := by
  induction items with
  | nil => exact impartial_pure ()
  | cons item items ih =>
    rw [List.forM_cons]
    exact (each item).bind fun _ => ih

theorem impartial_lookUp (id : SurfaceId) : Impartial (lookUp id) :=
  impartial_reading (fun alike => by rw [alike.surfaces]) fun shell => by
    cases shell.surfaces.get? id with
    | none => exact impartial_throw _
    | some surface => exact impartial_pure surface

theorem impartial_enter (id : SurfaceId) : Impartial (enter id) := impartial_modify fun alike => by
  rw [alike.surfaces]
  split
  · exact alike
  · exact alike.putSurface id {}

theorem impartial_onSurface (id : SurfaceId) (act : SurfaceM α) : Impartial (onSurface id act) := by
  refine (impartial_lookUp id).bind fun surface => ?_
  rcases ran : act.runOn surface with ⟨answer, left⟩
  refine (impartial_modify fun alike => alike.putSurface id left).bind fun _ => ?_
  cases answer with
  | ok value => exact impartial_pure value
  | error cause => exact impartial_throw _

/-- **The same surfaces are destroyed** in both shells, in the same order. -/
theorem impartial_destroy (depth : Nat) (root : SurfaceId) : Impartial (destroy depth root) := by
  induction depth generalizing root with
  | zero => exact impartial_throw _
  | succ depth ih =>
    have goes : Impartial (do
        forM ((← get).children root) (destroy depth)
        modify fun shell => shell.removeSurface root) :=
      impartial_reading (fun alike => by rw [Shell.children, alike.surfaces, Shell.children]) fun shell =>
        (impartial_forM ih (shell.children root)).bind fun _ =>
          impartial_modify fun alike => alike.removeSurface root
    exact impartial_reading (fun alike => by rw [alike.surfaces]) fun shell =>
      impartial_ite _ goes ((impartial_throw _).bind fun _ => goes)

end ShellM

namespace Shell

open ShellM

variable {first second : Shell}

namespace Indistinct

theorem reply (alike : Indistinct first second) {act : ShellM Unit} (goes : act.Impartial) :
    (first.reply act).Indistinct (second.reply act) := by
  obtain ⟨same, left⟩ := goes first second alike
  unfold Shell.reply
  generalize act.runOn first = one, act.runOn second = two at same left
  obtain ⟨outcome, _⟩ := one
  obtain ⟨_, _⟩ := two
  obtain rfl : outcome = _ := same
  cases outcome <;> exact ⟨left, rfl⟩

theorem newToplevel (alike : Indistinct first second) (id : SurfaceId) :
    (first.newToplevel id).Indistinct (second.newToplevel id) :=
  alike.reply <| (impartial_enter id).bind fun _ => (impartial_onSurface id _).bind fun _ =>
    impartial_modify fun alike => (alike.ping id).of_gist (·.createView id) (createView_gist · id)

theorem newPopup (alike : Indistinct first second) (id parent : SurfaceId) (geometry : Rectangle) :
    (first.newPopup id parent geometry).Indistinct (second.newPopup id parent geometry) := by
  have arrives : Impartial (do
      enter id
      onSurface id (.assignPopup parent geometry)
      modify fun shell => shell.emit parent (.newPopup id)) :=
    (impartial_enter id).bind fun _ => (impartial_onSurface id _).bind fun _ =>
      impartial_modify fun alike => alike.emit parent _
  exact alike.reply <| impartial_reading (fun alike => by rw [alike.surfaces]) fun shell =>
    impartial_ite _ ((impartial_throw _).bind fun _ => arrives) arrives

theorem changeSurface (alike : Indistinct first second) (id : SurfaceId) (act : SurfaceM Unit) :
    (first.changeSurface id act).Indistinct (second.changeSurface id act) :=
  alike.reply (impartial_onSurface id act)

theorem forward (alike : Indistinct first second) (id : SurfaceId) (signal : Signal) :
    (first.forward id signal).Indistinct (second.forward id signal) := by
  have passed : Impartial (modify fun shell => shell.emit id signal) :=
    impartial_modify fun alike => alike.emit id signal
  exact alike.reply <| (impartial_lookUp id).bind fun surface =>
    impartial_ite _ passed ((impartial_throw _).bind fun _ => passed)

theorem commit (alike : Indistinct first second) (id : SurfaceId) (commit : Commit) :
    (first.commit id commit).Indistinct (second.commit id commit) :=
  alike.reply <| (impartial_onSurface id _).bind fun effect =>
    impartial_modify fun alike => alike.committed id effect

theorem destroy (alike : Indistinct first second) (root : SurfaceId) :
    (first.destroy root).Indistinct (second.destroy root) := by
  unfold Shell.destroy
  rw [alike.surfaces]
  exact alike.reply (impartial_destroy _ root)

/-! ### Runs of both -/

/-- **Any act on two shells that cannot be told apart** leaves two such shells, and is rejected by both
for the same reason or by neither. -/
theorem perform (alike : Indistinct first second) (act : Act) :
    (first.perform act).Indistinct (second.perform act) := by
  cases act with
  | call view call =>
    refine ⟨?_, rfl⟩
    change (first.call view call).Indistinct (second.call view call)
    unfold Indistinct
    rw [call_gist, alike, ← call_gist]
  | request request =>
    cases request with
    | newToplevel surface => exact alike.newToplevel surface
    | newPopup surface parent geometry => exact alike.newPopup surface parent geometry
    | setMinSize | setMaxSize | ack => exact alike.changeSurface _ _
    | commit surface commit => exact alike.commit surface commit
    | move | resize | maximize | fullscreen => exact alike.forward _ _
    | destroy surface => exact alike.destroy surface

theorem performAll (alike : Indistinct first second) (acts : List Act) :
    Indistinct (first.performAll acts) (second.performAll acts) :=
  alike.foldl (fun act alike => (alike.perform act).1) acts

/-- **The same is reported of both in the end.** -/
theorem report (alike : Indistinct first second) (errors : List StepError) :
    Report.of first errors = Report.of second errors := by
  refine alike.same (Report.of · errors) fun shell => ?_
  have views : shell.gist.views.entries =
      shell.views.entries.map fun entry => (entry.1, entry.2.gist) := rfl
  unfold Report.of
  rw [views, List.map_map]
  congr 1
  refine List.map_congr_left fun entry _ => ?_
  simp only [Function.comp_apply, ViewReport.of, View.gist, Negotiation.gist_awaited]
  rfl

end Indistinct

end Shell

end WindowShell
