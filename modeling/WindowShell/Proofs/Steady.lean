/-
**What leaves a view where it is.**

Only two things in a shell touch the position of a view and its negotiation: a call to move and resize
the view, and a commit that the view follows. Everything else is steady, also where it reaches the view
by a signal: mapping, unmapping, popups and wishes of the client, and all that happens to other views:

* `deliver_steady`, `emit_steady`: every signal but a commit is steady;
* `newToplevel_steady`, `newPopup_steady`, `changeSurface_steady`, `forward_steady`,
  `destroy_steady`: so is every request but a commit;
* `followed_steady`: so is what a commit brings about before it is announced;
* `call_steady`: so is every call but a move and resize of the view itself.
-/

import WindowShell.Proofs.Moves

namespace WindowShell

/-- Where an event says that a view has moved to. -/
def Event.movedTo? (id : ViewId) : Event → Option Point
  | .moved view position => if view = id then some position else none
  | _ => none

namespace Shell

/-- The positions a view has moved to, as the desktop was told, oldest first. -/
def movesOf (shell : Shell) (id : ViewId) : List Point :=
  shell.desktop.events.filterMap (Event.movedTo? id)

/-- An operation leaves the view of a surface where it is, and reports no move of it. -/
structure Steady (id : ViewId) (surface : SurfaceId) (before after : Shell) : Prop where
  /-- The view was there before, with its position and negotiation. -/
  view : ∀ new, after.views.get? id = some new → new.surface = surface →
    ∃ old, before.views.get? id = some old ∧ old.surface = surface ∧
      new.position = old.position ∧ new.negotiation = old.negotiation
  /-- No move is reported. -/
  moves : after.movesOf id = before.movesOf id

theorem tell_moves (shell : Shell) {id : ViewId} {event : Event}
    (silent : event.movedTo? id = none) : (shell.tell event).movesOf id = shell.movesOf id := by
  rw [movesOf, tell, Desktop.tell, List.filterMap_append, movesOf]
  simp [silent]

section Steadiness

variable {id : ViewId} {surface : SurfaceId} {first second third shell : Shell}

namespace Steady

theorem refl (shell : Shell) : Steady id surface shell shell :=
  ⟨fun new found same => ⟨new, found, same, rfl, rfl⟩, rfl⟩

theorem trans (early : Steady id surface first second) (late : Steady id surface second third) :
    Steady id surface first third where
  view new found same := by
    obtain ⟨middle, there, kept, position, negotiation⟩ := late.view new found same
    obtain ⟨old, present, first, same, equal⟩ := early.view middle there kept
    exact ⟨old, present, first, position.trans same, negotiation.trans equal⟩
  moves := late.moves.trans early.moves

/-- The views and the log stay as they are. -/
theorem of_eq (views : second.views = first.views) (events : second.desktop = first.desktop) :
    Steady id surface first second :=
  ⟨fun new found same => ⟨new, views ▸ found, same, rfl, rfl⟩, by rw [movesOf, events, movesOf]⟩

/-- Nothing is told of a move of the view. -/
theorem tell {event : Event} (silent : event.movedTo? id = none) :
    Steady id surface shell (shell.tell event) :=
  ⟨fun new found same => ⟨new, found, same, rfl, rfl⟩, tell_moves shell silent⟩

/-- A change keeps what it does not name. -/
theorem changeView (other : ViewId) {change : View → View}
    (keeps : ∀ view, (change view).surface = view.surface ∧
      (change view).position = view.position ∧ (change view).negotiation = view.negotiation) :
    Steady id surface shell (shell.changeView other change) where
  view new found same := by
    rw [Shell.changeView, Table.get?_modify] at found
    split at found
    · obtain ⟨old, there, rfl⟩ := Option.map_eq_some_iff.mp found
      exact ⟨old, there, (keeps old).1 ▸ same, (keeps old).2.1, (keeps old).2.2⟩
    · exact ⟨new, found, same, rfl, rfl⟩
  moves := rfl

/-- Another view is changed. -/
theorem changeOther {other : ViewId} (differ : id ≠ other) (change : View → View) :
    Steady id surface shell (shell.changeView other change) where
  view new found same := by
    rw [Shell.changeView, Table.get?_modify, if_neg differ] at found
    exact ⟨new, found, same, rfl, rfl⟩
  moves := rfl

/-- Another view is placed. -/
theorem placeOther {other : ViewId} (differ : id ≠ other) (position : Point) :
    Steady id surface shell (shell.placeView other position) := by
  unfold placeView
  split
  · exact .refl shell
  · split
    · exact .refl shell
    · exact (changeOther differ _).trans (.tell (if_neg (Ne.symm differ)))

theorem changePopup (popup : PopupId) (change : Popup → Popup) :
    Steady id surface shell (shell.changePopup popup change) := .of_eq rfl rfl

theorem putSurface (other : SurfaceId) (state : Surface) :
    Steady id surface shell (shell.putSurface other state) := .of_eq rfl rfl

theorem configure (other : SurfaceId) (state : Surface) (force : Bool) :
    Steady id surface shell (shell.configure other state force).1 := by
  rcases configure_cases shell other state force with ⟨-, stored⟩ | ⟨_, _, _, -, stored⟩ <;>
    rw [stored] <;> exact .of_eq rfl rfl

theorem createPopup (view : ViewId) (other : SurfaceId) :
    Steady id surface shell (shell.createPopup view other) := by
  rcases createPopup_cases shell view other with same | ⟨-, created⟩
  · rw [same]
    exact .refl shell
  · rw [created]
    have changed : Steady id surface shell (shell.changeView view fun owner =>
        { owner with popups := owner.popups ++ [shell.nextPopup] }) :=
      .changeView view fun _ => ⟨rfl, rfl, rfl⟩
    exact changed.trans (.of_eq rfl rfl)

theorem forgetPopup (popup : PopupId) : Steady id surface shell (shell.forgetPopup popup) := by
  cases found : shell.popups.get? popup with
  | none =>
    rw [forgetPopup_of_none shell found]
    exact .refl shell
  | some record =>
    rw [forgetPopup_of_some shell found]
    have changed : Steady id surface shell (shell.changeView record.view fun owner =>
        { owner with popups := owner.popups.filter (· ≠ popup) }) :=
      .changeView record.view fun _ => ⟨rfl, rfl, rfl⟩
    exact changed.trans (.of_eq rfl rfl)

theorem forgetPopups (popups : List PopupId) :
    Steady id surface shell (popups.foldl Shell.forgetPopup shell) := by
  induction popups generalizing shell with
  | nil => exact .refl shell
  | cons popup popups ih => exact (forgetPopup popup).trans ih

theorem forgetView (other : ViewId) : Steady id surface shell (shell.forgetView other) := by
  cases found : shell.views.get? other with
  | none =>
    rw [forgetView_of_none shell found]
    exact .refl shell
  | some view =>
    rw [forgetView_of_some shell found]
    have dropped : Steady id surface shell (shell.dropView other) := by
      refine ⟨fun new there same => ?_, rfl⟩
      rw [dropView, Table.get?_erase] at there
      split at there
      · cases there
      · exact ⟨new, there, same, rfl, rfl⟩
    exact dropped.trans (.forgetPopups view.popups)

/-- The view of another surface is created. -/
theorem createView {other : SurfaceId} (differ : other ≠ surface) :
    Steady id surface shell (shell.createView other) where
  view new found same := by
    rcases shell.createView_view found with old | ⟨listeners, rfl⟩
    · exact ⟨new, old, same, rfl, rfl⟩
    · exact absurd same differ
  moves := by
    rcases shell.createView_told other with ⟨-, -, events⟩ | ⟨-, -, events⟩
    · rw [movesOf, events, movesOf]
    · rw [movesOf, events, List.filterMap_append, movesOf]
      simp [Event.movedTo?]

theorem viewMapped (other : ViewId) : Steady id surface shell (shell.viewMapped other) := by
  unfold Shell.viewMapped
  split
  · exact .refl shell
  · split
    · exact .refl shell
    · simp only []
      split
      · exact .changeView other fun _ => ⟨rfl, rfl, rfl⟩
      · refine .trans (.changeView other ?_) (.tell rfl)
        exact fun _ => ⟨rfl, rfl, rfl⟩

theorem viewUnmapped (other : ViewId) : Steady id surface shell (shell.viewUnmapped other) := by
  unfold Shell.viewUnmapped
  split
  · exact .refl shell
  · split
    · refine .trans (.changeView other ?_) (.tell rfl)
      exact fun _ => ⟨rfl, rfl, rfl⟩
    · exact .refl shell

theorem viewDestroyed (other : ViewId) : Steady id surface shell (shell.viewDestroyed other) := by
  unfold Shell.viewDestroyed
  split
  · exact .refl shell
  · refine .trans ?_ (.tell rfl)
    split
    · exact (forgetView other).trans (.tell rfl)
    · exact .forgetView other

/-- Another view follows a commit. -/
theorem viewCommitted {other : ViewId} (differ : id ≠ other) :
    Steady id surface shell (shell.viewCommitted other) := by
  unfold Shell.viewCommitted
  split
  · exact .refl shell
  · split
    · exact .refl shell
    · split
      · refine .trans (.trans ?_ (.tell rfl)) (.tell rfl)
        split
        · exact .changeOther differ _
        · exact (changeOther differ _).trans (.placeOther differ _)
      · exact .refl shell

end Steady

/-- A signal is steady for a view, unless it is a commit that the view itself hears. -/
theorem deliver_steady {signal : Signal} {target : ListenerTarget}
    (other : signal = .commit → target ≠ .view id) :
    Steady id surface shell (shell.deliver signal target) := by
  cases target with
  | view view =>
    cases signal with
    | commit =>
      refine .viewCommitted ?_
      rintro rfl
      exact other rfl rfl
    | destroy => exact .viewDestroyed view
    | map => exact .viewMapped view
    | unmap => exact .viewUnmapped view
    | newPopup popup => exact .createPopup view popup
    | requestMove | requestResize =>
      simp only [deliver, deliverToView]
      split
      · exact .tell rfl
      · exact .refl shell
    | requestMaximize | requestFullscreen => exact .tell rfl
  | popup popup =>
    simp only [deliver, deliverToPopup]
    split
    · exact .refl shell
    · split
      · exact .tell rfl
      · exact .trans (.changePopup popup _) (.tell rfl)
      · exact .trans (.changePopup popup _) (.tell rfl)
      · exact .forgetPopup popup
      · exact .createPopup _ _
      · exact .refl shell
      · exact .refl shell
      · exact .refl shell
      · exact .refl shell

/-- Every signal but a commit is steady, whoever hears it. -/
theorem emit_steady (signal : Signal) (other : signal ≠ .commit) (origin : SurfaceId) :
    Steady id surface shell (shell.emit origin signal) := by
  unfold emit
  generalize shell.registry.listeners origin signal.kind = listeners
  induction listeners generalizing shell with
  | nil => exact .refl shell
  | cons listener listeners ih =>
    rw [List.foldl_cons]
    refine .trans ?_ ih
    split
    · exact deliver_steady fun same => absurd same other
    · exact .refl shell

/-! ### Acts that are steady -/

theorem newToplevel_steady (roled : shell.Roled) (other : SurfaceId) {state : Surface}
    (present : shell.surfaces.get? surface = some state) :
    Steady id surface shell (shell.newToplevel other).shell := by
  rcases newToplevel_cases roled other with ⟨fault, refused⟩ | ⟨new, taken⟩
  · rw [refused]
    exact .refl shell
  rw [taken]
  have pinged : Steady id surface shell
      ((shell.putSurface other { role := .toplevel {} }).ping other) := by
    unfold ping
    split <;> exact .of_eq rfl rfl
  refine pinged.trans (.createView ?_)
  rintro rfl
  rw [new] at present
  cases present

theorem newPopup_steady (roled : shell.Roled) (other parent : SurfaceId) (geometry : Rectangle) :
    Steady id surface shell (shell.newPopup other parent geometry).shell := by
  rcases newPopup_cases roled other parent geometry with ⟨fault, refused⟩ | ⟨new, taken⟩
  · rw [refused]
    exact .refl shell
  · rw [taken]
    exact .trans (.putSurface other _) (emit_steady (.newPopup other) (by simp) parent)

theorem changeSurface_steady (other : SurfaceId) (act : SurfaceM Unit) :
    Steady id surface shell (shell.changeSurface other act).shell := by
  rcases changeSurface_stores shell other act with kept | ⟨after, stored⟩
  · rw [kept]
    exact .refl shell
  · rw [stored]
    exact .putSurface other after

theorem forward_steady (other : SurfaceId) {signal : Signal} (wish : signal ≠ .commit) :
    Steady id surface shell (shell.forward other signal).shell := by
  rcases forward_cases shell other signal with ⟨fault, refused⟩ | taken
  · rw [refused]
    exact .refl shell
  · rw [taken]
    exact emit_steady signal wish other

theorem removeSurface_steady (other : SurfaceId) :
    Steady id surface shell (shell.removeSurface other) := by
  rcases removeSurface_cases shell other with same | ⟨state, hidden, -, -, hides, removed⟩
  · rw [same]
    exact .refl shell
  · have away : Steady id surface shell hidden := by
      rcases hides with rfl | rfl
      · exact .putSurface other _
      · exact .trans (.putSurface other _) (emit_steady .unmap (by simp) other)
    rw [removed]
    exact (away.trans (emit_steady .destroy (by simp) other)).trans (.of_eq rfl rfl)

theorem removeAll_steady (ids : List SurfaceId) :
    Steady id surface shell (ids.foldl removeSurface shell) := by
  induction ids generalizing shell with
  | nil => exact .refl shell
  | cons first ids ih => exact (removeSurface_steady first).trans ih

theorem destroy_steady (root : SurfaceId) : Steady id surface shell (shell.destroy root).shell := by
  obtain ⟨ids, gone⟩ := destroy_removes shell root
  rw [gone]
  exact removeAll_steady ids

theorem followed_steady (other : SurfaceId) (state : Surface) (effect : CommitEffect) :
    Steady id surface shell (shell.followed other state effect) := by
  cases effect with
  | settled => exact .putSurface other state
  | needsConfigure => exact .configure other state true
  | mapped => exact .trans (.putSurface other state) (emit_steady .map (by simp) other)
  | unmapped => exact .trans (.putSurface other state) (emit_steady .unmap (by simp) other)

/-- A call is steady for a view, unless it moves and resizes that very view. -/
theorem call_steady (view : ViewId) {call : WindowCall}
    (other : ∀ position size, call = .moveResize position size → id ≠ view) :
    Steady id surface shell (shell.call view call) := by
  have carried := call_carried shell view call
  generalize shell.call view call = after at carried
  cases carried with
  | forget => exact .forgetView view
  | miss => exact .refl shell
  | close => exact .of_eq rfl rfl
  | propose => exact .configure _ _ _
  | moveResize position size =>
    have differ := other position size rfl
    simp only [moveResize]
    split
    · exact .trans (.configure _ _ _) (.changeOther differ _)
    · exact .trans (.trans (.configure _ _ _) (.changeOther differ _)) (.placeOther differ _)

end Steadiness

end Shell

end WindowShell
