/-
**What an act does to the frame.**

Seven moves make up everything that happens to the frame of a shell: a surface comes or goes, a view
or popup record comes or goes, and the rest leaves the frame alone. An act is a few moves in a row, of
which at most one creates a record. A surface goes only when nothing follows it any more, and a record
is created only for a surface that nothing follows yet:

* `Move.sound`: every move keeps the wrapping of surfaces sound;
* `perform_frame`, `perform_moves`: most acts leave the frame alone, and every act is made up of moves.
-/

import WindowShell.Proofs.Followers

namespace WindowShell

/-- An act that creates or forgets surfaces, views or popups. -/
def Act.Structural : Act → Prop
  | .request (.newToplevel _) | .request (.newPopup _ _ _) | .request (.destroy _)
  | .call _ .destroy => True
  | _ => False

namespace Shell

/-! ### Creating and forgetting records -/

section Records

variable (shell : Shell)

/-- The identifier of the next view. -/
def nextView : ViewId := ⟨shell.desktop.lastView + 1⟩

/-- The identifier of the next popup. -/
def nextPopup : PopupId := ⟨shell.lastPopup + 1⟩

/-- The shell with a view of a surface, as it is created where nothing stands against it. -/
def withView (surface : SurfaceId) : Shell :=
  let installed := shell.registry.install surface (.view shell.nextView) viewSignals
  { shell with
    desktop := shell.desktop.createView.1
    registry := installed.1.releaseAll (shell.viewListeners shell.nextView)
    views := shell.views.insert shell.nextView { surface, listeners := installed.2 } }

/-- The shell with a popup on a view, as it is created where nothing stands against it. -/
def withPopup (view : ViewId) (surface : SurfaceId) : Shell :=
  let installed := shell.registry.install surface (.popup shell.nextPopup) popupSignals
  { shell with
    lastPopup := shell.nextPopup.val
    registry := installed.1.releaseAll (shell.popupListeners shell.nextPopup)
    popups := shell.popups.insert shell.nextPopup { view, surface, listeners := installed.2 }
    views := shell.views.modify view fun owner =>
      { owner with popups := owner.popups ++ [shell.nextPopup] } }

/-- The shell without a view, whose popups are still there. -/
def dropView (id : ViewId) : Shell :=
  { shell with
    views := shell.views.erase id
    registry := shell.registry.releaseAll (shell.viewListeners id) }

/-- A view is created, or it is declined and the frame stays as it is. -/
theorem createView_cases (surface : SurfaceId) :
    (shell.createView surface).frame = shell.frame ∨
      shell.createView surface = shell.withView surface ∧
        (shell.withView surface).desktop.lastView = shell.desktop.lastView + 1 := by
  unfold createView
  split
  · unfold withView nextView Desktop.createView
    cases shell.desktop.refusals with
    | zero => exact .inr ⟨rfl, rfl⟩
    | succ remaining => exact .inl rfl
  · exact .inl rfl

/-- A view is created and the desktop is told, or the view is declined. -/
theorem createView_told (surface : SurfaceId) :
    (shell.createView surface).views = shell.views ∧
        (shell.createView surface).desktop.lastView = shell.desktop.lastView ∧
        (shell.createView surface).desktop.events = shell.desktop.events ∨
      (∃ listeners, (shell.createView surface).views =
          shell.views.insert shell.nextView { surface, listeners }) ∧
        (shell.createView surface).desktop.lastView = shell.desktop.lastView + 1 ∧
        (shell.createView surface).desktop.events =
          shell.desktop.events ++ [.viewCreated shell.nextView] := by
  unfold createView
  split
  · unfold Desktop.createView
    cases shell.desktop.refusals with
    | zero => exact .inr ⟨⟨_, rfl⟩, rfl, rfl⟩
    | succ remaining => exact .inl ⟨rfl, rfl, rfl⟩
  · exact .inl ⟨rfl, rfl, rfl⟩

/-- A view that is there afterwards was there before, or it is new. -/
theorem createView_view {surface : SurfaceId} {id : ViewId} {view : View}
    (found : (shell.createView surface).views.get? id = some view) :
    shell.views.get? id = some view ∨ ∃ listeners, view = { surface, listeners } := by
  rcases shell.createView_told surface with ⟨views, -⟩ | ⟨⟨listeners, views⟩, -⟩
  · exact .inl (views ▸ found)
  · rw [views, Table.get?_insert] at found
    split at found
    · exact .inr ⟨listeners, (Option.some.inj found).symm⟩
    · exact .inl found

/-- A popup is created, or the shell stays as it is. -/
theorem createPopup_cases (view : ViewId) (surface : SurfaceId) :
    shell.createPopup view surface = shell ∨
      (∃ owner, shell.views.get? view = some owner) ∧
        shell.createPopup view surface = shell.withPopup view surface := by
  unfold createPopup
  split
  · exact .inl rfl
  · next owner found =>
    split
    · exact .inr ⟨⟨owner, found⟩, rfl⟩
    · exact .inl rfl

/-- A popup record that is there afterwards was there before, or it is new. -/
theorem createPopup_popup {view : ViewId} {surface : SurfaceId} {id : PopupId} {popup : Popup}
    (found : (shell.createPopup view surface).popups.get? id = some popup) :
    shell.popups.get? id = some popup ∨ ∃ listeners, popup = { view, surface, listeners } := by
  rcases createPopup_cases shell view surface with same | ⟨-, created⟩
  · exact .inl (same ▸ found)
  · rw [created, withPopup, Table.get?_insert] at found
    split at found
    · exact .inr ⟨_, (Option.some.inj found).symm⟩
    · exact .inl found

theorem forgetPopup_of_none {id : PopupId} (absent : shell.popups.get? id = none) :
    shell.forgetPopup id = shell := by
  rw [forgetPopup, absent]

theorem forgetPopup_of_some {id : PopupId} {popup : Popup}
    (found : shell.popups.get? id = some popup) :
    shell.forgetPopup id =
      { shell with
        popups := shell.popups.erase id
        registry := shell.registry.releaseAll (shell.popupListeners id)
        views := shell.views.modify popup.view fun owner =>
          { owner with popups := owner.popups.filter (· ≠ id) } } := by
  rw [forgetPopup, popupListeners, found, Option.map_some, Option.getD_some]

theorem forgetView_of_none {id : ViewId} (absent : shell.views.get? id = none) :
    shell.forgetView id = shell := by
  rw [forgetView, absent]

theorem forgetView_of_some {id : ViewId} {view : View} (found : shell.views.get? id = some view) :
    shell.forgetView id = view.popups.foldl forgetPopup (shell.dropView id) := by
  rw [forgetView, dropView, viewListeners, found, Option.map_some, Option.getD_some]

theorem popups_forgetPopup (id other : PopupId) :
    (shell.forgetPopup id).popups.get? other =
      if other = id then none else shell.popups.get? other := by
  cases found : shell.popups.get? id with
  | none =>
    rw [forgetPopup_of_none shell found]
    split
    · next same => rw [same, found]
    · rfl
  | some popup => rw [forgetPopup_of_some shell found, Table.get?_erase]

theorem popups_forgetPopups (ids : List PopupId) (other : PopupId) :
    (ids.foldl forgetPopup shell).popups.get? other =
      if other ∈ ids then none else shell.popups.get? other := by
  induction ids generalizing shell with
  | nil => simp
  | cons id ids ih =>
    rw [List.foldl_cons, ih, popups_forgetPopup]
    by_cases same : other = id <;> by_cases later : other ∈ ids <;> simp [same, later]

/-- The popups of a view do not change how it wraps its surface. -/
theorem wrapping?_modify_popups (id : ViewId) (change : List PopupId → List PopupId)
    (other : ViewId) :
    ((shell.views.modify id fun owner => { owner with popups := change owner.popups }).get?
      other).map View.wrapping = shell.wrapping? (.view other) := by
  rw [Table.get?_modify, wrapping?]
  split
  · rw [Option.map_map]
    rfl
  · rfl

theorem wrapping?_withView (surface : SurfaceId) (other : ListenerTarget) :
    (shell.withView surface).wrapping? other =
      if other = .view shell.nextView then
        some { surface, listeners :=
          (shell.registry.install surface (.view shell.nextView) viewSignals).2 }
      else shell.wrapping? other := by
  cases other with
  | view id =>
    simp only [wrapping?, withView, Table.get?_insert, ListenerTarget.view.injEq]
    split <;> rfl
  | popup id => rfl

theorem wrapping?_withPopup (view : ViewId) (surface : SurfaceId) (other : ListenerTarget) :
    (shell.withPopup view surface).wrapping? other =
      if other = .popup shell.nextPopup then
        some { surface, listeners :=
          (shell.registry.install surface (.popup shell.nextPopup) popupSignals).2 }
      else shell.wrapping? other := by
  cases other with
  | view id =>
    rw [if_neg (by simp)]
    exact shell.wrapping?_modify_popups view (· ++ [shell.nextPopup]) id
  | popup id =>
    simp only [wrapping?, withPopup, Table.get?_insert, ListenerTarget.popup.injEq]
    split <;> rfl

theorem wrapping?_dropView (id : ViewId) (other : ListenerTarget) :
    (shell.dropView id).wrapping? other =
      if other = .view id then none else shell.wrapping? other := by
  cases other with
  | view other =>
    simp only [wrapping?, dropView, Table.get?_erase, ListenerTarget.view.injEq]
    split <;> rfl
  | popup other => rfl

theorem wrapping?_forgetPopup (id : PopupId) (other : ListenerTarget) :
    (shell.forgetPopup id).wrapping? other =
      if other = .popup id then none else shell.wrapping? other := by
  cases found : shell.popups.get? id with
  | none =>
    rw [forgetPopup_of_none shell found]
    split
    · next same => rw [same, wrapping?, found, Option.map_none]
    · rfl
  | some popup =>
    rw [forgetPopup_of_some shell found]
    cases other with
    | view other =>
      rw [if_neg (by simp)]
      exact shell.wrapping?_modify_popups popup.view (·.filter (· ≠ id)) other
    | popup other =>
      simp only [wrapping?, Table.get?_erase, ListenerTarget.popup.injEq]
      split <;> rfl

end Records

/-! ### Moves -/

/-- **The moves of a frame**, with the number of records they create. -/
inductive Move : Nat → Shell → Shell → Prop
  | alike {before after : Shell} (same : after.frame = before.frame) : Move 0 before after
  | surface {before : Shell} (id : SurfaceId) (role : Role)
      (new : before.surfaces.get? id = none) : Move 0 before (before.putSurface id { role })
  | vanish {before : Shell} (id : SurfaceId) (free : before.Unfollowed id) :
      Move 0 before { before with surfaces := before.surfaces.erase id }
  | createView {before : Shell} (surface : SurfaceId) (free : before.Unfollowed surface)
      (fits : ∃ role, before.frame.roles surface = some role ∧ role.toplevel?.isSome) :
      Move 1 before (before.createView surface)
  | createPopup {before : Shell} (view : ViewId) (surface : SurfaceId)
      (free : before.Unfollowed surface)
      (fits : ∃ role, before.frame.roles surface = some role ∧ role.parent?.isSome) :
      Move 1 before (before.createPopup view surface)
  | forgetPopup {before : Shell} (id : PopupId) : Move 0 before (before.forgetPopup id)
  | forgetView {before : Shell} (id : ViewId) : Move 0 before (before.forgetView id)

/-- Moves in a row, with the number of records they create altogether. -/
inductive Moves : Nat → Shell → Shell → Prop
  | refl (shell : Shell) : Moves 0 shell shell
  | tail {births more : Nat} {first second third : Shell} (moves : Moves births first second)
      (move : Move more second third) : Moves (births + more) first third

theorem Sound.forgetPopup {shell : Shell} (sound : shell.Sound) (id : PopupId) :
    (shell.forgetPopup id).Sound := by
  refine sound.drop ?_ (shell.wrapping?_forgetPopup id) ?_ <;>
    cases found : shell.popups.get? id
  · rw [forgetPopup_of_none shell found, owned, wrapping?, found]
    rfl
  · rw [forgetPopup_of_some shell found, owned_popup]
  · rw [forgetPopup_of_none shell found]
  · rw [forgetPopup_of_some shell found]
    rfl

theorem Sound.forgetPopups {shell : Shell} (sound : shell.Sound) (ids : List PopupId) :
    (ids.foldl Shell.forgetPopup shell).Sound := by
  induction ids generalizing shell with
  | nil => exact sound
  | cons id ids ih => exact ih (sound.forgetPopup id)

theorem Sound.forgetView {shell : Shell} (sound : shell.Sound) (id : ViewId) :
    (shell.forgetView id).Sound := by
  cases found : shell.views.get? id with
  | none => rwa [forgetView_of_none shell found]
  | some view =>
    rw [forgetView_of_some shell found]
    have dropped : (shell.dropView id).Sound :=
      sound.drop (by rw [owned_view]; rfl) (shell.wrapping?_dropView id) rfl
    exact dropped.forgetPopups view.popups

/-- Nothing follows a surface that does not exist. -/
theorem Sound.unfollowed {shell : Shell} (sound : shell.Sound) {id : SurfaceId}
    (absent : shell.surfaces.get? id = none) : shell.Unfollowed id := by
  rintro target wrapping found rfl
  obtain ⟨role, present, -⟩ := sound.fits target wrapping found
  rw [roles_frame, absent] at present
  cases present

/-- **Every move keeps the wrapping of surfaces sound.** -/
theorem Move.sound {births : Nat} {before after : Shell} (move : Move births before after)
    (sound : before.Sound) : after.Sound := by
  cases move with
  | alike same => exact sound.congr same
  | surface id role new =>
    refine ⟨sound.held.congr rfl fun _ => rfl, fun target wrapping found => ?_, sound.alone⟩
    have other := sound.unfollowed new target wrapping found
    simp only [frame, putSurface, Table.get?_insert, if_neg other]
    exact sound.fits target wrapping found
  | vanish id free =>
    refine ⟨sound.held.congr rfl fun _ => rfl, fun target wrapping found => ?_, sound.alone⟩
    simp only [frame, Table.get?_erase, if_neg (free target wrapping found)]
    exact sound.fits target wrapping found
  | createView surface free fits =>
    rcases createView_cases before surface with same | ⟨created, -⟩
    · exact sound.congr same
    · rw [created]
      exact sound.write (by rw [owned_view]; rfl) (wrapping?_withView before surface) rfl free fits
  | createPopup view surface free fits =>
    rcases createPopup_cases before view surface with same | ⟨-, created⟩
    · rwa [same]
    · rw [created]
      exact sound.write (by rw [owned_popup]; rfl) (wrapping?_withPopup before view surface) rfl free
        fits
  | forgetPopup id => exact sound.forgetPopup id
  | forgetView id => exact sound.forgetView id

/-- A surface that is new leaves the wrapping of the others sound. -/
theorem Sound.arrives {shell : Shell} (sound : shell.Sound) {id : SurfaceId} (role : Role)
    (new : shell.surfaces.get? id = none) : (shell.putSurface id { role }).Sound :=
  (Move.surface id role new).sound sound

namespace Moves

variable {births more : Nat} {first second third : Shell}

theorem sound (moves : Moves births first second) (sound : first.Sound) : second.Sound := by
  induction moves with
  | refl => exact sound
  | tail _ move ih => exact move.sound (ih sound)

theorem single (move : Move births first second) : Moves births first second := by
  simpa using (refl first).tail move

theorem alike (moves : Moves births first second) (same : third.frame = second.frame) :
    Moves births first third :=
  moves.tail (.alike same)

theorem trans (moves : Moves births first second) (onward : Moves more second third) :
    Moves (births + more) first third := by
  induction onward with
  | refl => exact moves
  | tail _ move ih => exact Nat.add_assoc _ _ _ ▸ (ih moves).tail move

end Moves

/-! ### Every act is made up of moves -/

section Acts

variable {shell : Shell}

/-- What follows a surface, or that nothing does. -/
theorem followed_or_unfollowed (shell : Shell) (surface : SurfaceId) :
    (∃ target wrapping, shell.wrapping? target = some wrapping ∧ wrapping.surface = surface) ∨
      shell.Unfollowed surface := by
  by_cases followed : ∃ target wrapping, shell.wrapping? target = some wrapping ∧
      wrapping.surface = surface
  · exact .inl followed
  · exact .inr fun target wrapping found same => followed ⟨target, wrapping, found, same⟩

theorem newToplevel_moves (sound : shell.Sound) (roled : shell.Roled) (id : SurfaceId) :
    ∃ births ≤ 1, Moves births shell (shell.newToplevel id).shell := by
  rcases newToplevel_cases roled id with ⟨fault, refused⟩ | ⟨new, taken⟩
  · rw [refused]
    exact ⟨0, Nat.zero_le 1, .refl shell⟩
  refine ⟨1, Nat.le_refl 1, ?_⟩
  rw [taken]
  have pinged : Moves 0 shell ((shell.putSurface id { role := .toplevel {} }).ping id) :=
    (Moves.single (.surface id (.toplevel {}) new)).alike (ping_frame _ _)
  have free : (shell.putSurface id { role := .toplevel {} }).Unfollowed id := sound.unfollowed new
  refine Nat.zero_add 1 ▸
    pinged.tail (.createView id (free.congr (ping_frame _ _)) ⟨.toplevel {}, ?_, rfl⟩)
  rw [ping_frame]
  exact roles_putSurface _ _ _

/-- A new popup is attached to the view of its parent, or to the view its parent is attached to. -/
theorem announce_cases (sound : shell.Sound) (parent surface : SurfaceId) :
    shell.emit parent (.newPopup surface) = shell ∨
      ∃ view, shell.emit parent (.newPopup surface) = shell.createPopup view surface ∧
        ((∃ record, shell.views.get? view = some record ∧ record.surface = parent) ∨
          ∃ popup record, shell.popups.get? popup = some record ∧ record.surface = parent ∧
            record.view = view) := by
  rcases followed_or_unfollowed shell parent with ⟨target, wrapping, found, rfl⟩ | alone
  · rw [sound.emit_followed found]
    cases target with
    | view view =>
      obtain ⟨record, live, rfl⟩ := Option.map_eq_some_iff.mp found
      exact .inr ⟨view, rfl, .inl ⟨record, live, rfl⟩⟩
    | popup popup =>
      obtain ⟨record, there, rfl⟩ := Option.map_eq_some_iff.mp found
      refine .inr ⟨record.view, ?_, .inr ⟨popup, record, there, rfl, rfl⟩⟩
      rw [deliver, deliverToPopup, there]
  · exact .inl (emit_unfollowed sound.held alone _)

theorem announce_moves (sound : shell.Sound) {parent surface : SurfaceId}
    (free : shell.Unfollowed surface)
    (fits : ∃ role, shell.frame.roles surface = some role ∧ role.parent?.isSome) :
    ∃ births ≤ 1, Moves births shell (shell.emit parent (.newPopup surface)) := by
  rcases announce_cases sound parent surface with same | ⟨view, attached, -⟩
  · rw [same]
    exact ⟨0, Nat.zero_le 1, .refl shell⟩
  · rw [attached]
    exact ⟨1, Nat.le_refl 1, .single (.createPopup view surface free fits)⟩

theorem newPopup_moves (sound : shell.Sound) (roled : shell.Roled) (id parent : SurfaceId)
    (geometry : Rectangle) :
    ∃ births ≤ 1, Moves births shell (shell.newPopup id parent geometry).shell := by
  rcases newPopup_cases roled id parent geometry with ⟨fault, refused⟩ | ⟨new, taken⟩
  · rw [refused]
    exact ⟨0, Nat.zero_le 1, .refl shell⟩
  rw [taken]
  have stored : Move 0 shell (shell.putSurface id { role := .popup parent geometry }) :=
    .surface id _ new
  obtain ⟨births, few, moves⟩ := announce_moves (stored.sound sound)
    (sound.unfollowed new) ⟨.popup parent geometry, roles_putSurface _ _ _, rfl⟩
  exact ⟨births, few, Nat.zero_add births ▸ (Moves.single stored).trans moves⟩

theorem wrapping?_forgetPopups (shell : Shell) (ids : List PopupId) (other : ListenerTarget) :
    (ids.foldl forgetPopup shell).wrapping? other =
      if ∃ id ∈ ids, other = .popup id then none else shell.wrapping? other := by
  induction ids generalizing shell with
  | nil => simp
  | cons id ids ih =>
    rw [List.foldl_cons, ih, wrapping?_forgetPopup]
    by_cases same : other = .popup id
    · simp [same]
    · simp [same]

theorem wrapping?_forgetView {id : ViewId} {view : View} (found : shell.views.get? id = some view)
    (other : ListenerTarget) :
    (shell.forgetView id).wrapping? other =
      if other = .view id ∨ ∃ popup ∈ view.popups, other = .popup popup then none
      else shell.wrapping? other := by
  rw [forgetView_of_some shell found, wrapping?_forgetPopups, wrapping?_dropView]
  by_cases same : other = .view id
  · simp [same]
  · simp [same]

theorem viewDestroyed_frame {id : ViewId} {view : View} (found : shell.views.get? id = some view) :
    (shell.viewDestroyed id).frame = (shell.forgetView id).frame := by
  simp only [viewDestroyed, found, tell_frame]
  split <;> rfl

/-- The follower of a surface that is destroyed is forgotten. -/
theorem destroyed_moves (sound : shell.Sound) (surface : SurfaceId) :
    Moves 0 shell (shell.emit surface .destroy) ∧
      (shell.emit surface .destroy).Unfollowed surface := by
  rcases followed_or_unfollowed shell surface with ⟨target, wrapping, found, rfl⟩ | alone
  · rw [sound.emit_followed found]
    cases target with
    | view id =>
      obtain ⟨view, there, rfl⟩ := Option.map_eq_some_iff.mp found
      have same := viewDestroyed_frame there
      refine ⟨(Moves.single (.forgetView id)).alike same, fun other wrapping left => ?_⟩
      rw [deliver, deliverToView, wrapping?_of_frame same, wrapping?_forgetView there] at left
      split at left
      · cases left
      · next kept =>
        exact fun also => kept (.inl (sound.alone other _ _ _ left found also))
    | popup id =>
      obtain ⟨popup, there, rfl⟩ := Option.map_eq_some_iff.mp found
      have forgets : shell.deliver .destroy (.popup id) = shell.forgetPopup id := by
        rw [deliver, deliverToPopup, there]
      rw [forgets]
      refine ⟨.single (.forgetPopup id), fun other wrapping left => ?_⟩
      rw [wrapping?_forgetPopup] at left
      split at left
      · cases left
      · next kept => exact fun also => kept (sound.alone other _ _ _ left found also)
  · rw [emit_unfollowed sound.held alone]
    exact ⟨.refl shell, alone⟩

/-- The shell in which a surface that is about to go is hidden. -/
def hidden (shell : Shell) (id : SurfaceId) (surface : Surface) : Shell :=
  if surface.mapped then (shell.putSurface id surface.hide).emit id .unmap
  else shell.putSurface id surface.hide

theorem hidden_cases (shell : Shell) (id : SurfaceId) (surface : Surface) :
    shell.hidden id surface = shell.putSurface id surface.hide ∨
      shell.hidden id surface = (shell.putSurface id surface.hide).emit id .unmap := by
  unfold hidden
  split
  · exact .inr rfl
  · exact .inl rfl

theorem hidden_frame {id : SurfaceId} {surface : Surface}
    (present : shell.surfaces.get? id = some surface) :
    (shell.hidden id surface).frame = shell.frame := by
  have stored : (shell.putSurface id surface.hide).frame = shell.frame :=
    putSurface_frame shell present rfl
  rcases hidden_cases shell id surface with same | same
  · rw [same, stored]
  · rw [same, emit_frame _ (show Signal.Passing .unmap from trivial), stored]

theorem removeSurface_of_present {id : SurfaceId} {surface : Surface}
    (present : shell.surfaces.get? id = some surface) :
    shell.removeSurface id =
      { (shell.hidden id surface).emit id .destroy with
        surfaces := ((shell.hidden id surface).emit id .destroy).surfaces.erase id } := by
  rw [removeSurface, present]
  rfl

/-- A surface that is removed is hidden, which leaves the frame alone, then announced and forgotten. -/
theorem removeSurface_cases (shell : Shell) (id : SurfaceId) :
    shell.removeSurface id = shell ∨
      ∃ surface hidden, shell.surfaces.get? id = some surface ∧ hidden.frame = shell.frame ∧
        (hidden = shell.putSurface id surface.hide ∨
          hidden = (shell.putSurface id surface.hide).emit id .unmap) ∧
        shell.removeSurface id = { hidden.emit id .destroy with
          surfaces := (hidden.emit id .destroy).surfaces.erase id } := by
  cases present : shell.surfaces.get? id with
  | none => exact .inl (by rw [removeSurface, present])
  | some surface =>
    exact .inr ⟨surface, shell.hidden id surface, rfl, hidden_frame present,
      hidden_cases shell id surface, removeSurface_of_present present⟩

theorem removeSurface_moves (sound : shell.Sound) (id : SurfaceId) :
    Moves 0 shell (shell.removeSurface id) := by
  rcases removeSurface_cases shell id with same | ⟨surface, hidden, -, frame, -, removed⟩
  · rw [same]
    exact .refl shell
  · have away := Moves.single (.alike frame)
    obtain ⟨announced, alone⟩ := destroyed_moves (away.sound sound) id
    rw [removed]
    exact (away.trans announced).tail (.vanish id alone)

theorem removeAll_moves (sound : shell.Sound) (ids : List SurfaceId) :
    Moves 0 shell (ids.foldl removeSurface shell) := by
  induction ids generalizing shell with
  | nil => exact .refl shell
  | cons id ids ih =>
    have first := removeSurface_moves sound id
    exact first.trans (ih (first.sound sound))

theorem changeSurface_frame {id : SurfaceId} {act : SurfaceM Unit} (careful : act.Careful)
    (keeps : ∀ before after : Surface, before.obey act = .ok after → after.role.bare = before.role.bare) :
    (shell.changeSurface id act).shell.frame = shell.frame := by
  rcases changeSurface_cases shell id careful with
    ⟨fault, refused⟩ | ⟨before, after, found, done, taken⟩
  · rw [refused, reject]
  · rw [taken, accept]
    exact putSurface_frame shell found (keeps before after done)

theorem forward_frame (id : SurfaceId) {signal : Signal} (passing : signal.Passing) :
    (shell.forward id signal).shell.frame = shell.frame := by
  rcases forward_cases shell id signal with ⟨fault, refused⟩ | taken
  · rw [refused, reject]
  · rw [taken, accept, emit_frame shell passing]

theorem commit_frame (id : SurfaceId) (commit : Commit) :
    (shell.commit id commit).shell.frame = shell.frame := by
  rcases commit_cases shell id commit with
    ⟨fault, refused⟩ | ⟨before, after, effect, found, done, taken⟩
  · rw [refused, reject]
  · rw [taken, accept, emit_frame _ (show Signal.Passing .commit from trivial)]
    exact followed_frame shell effect found (Surface.bare_commit done)

theorem propose_frame {view : View} {surface : Surface}
    (present : shell.surfaces.get? view.surface = some surface)
    (change : ToplevelState → ToplevelState) :
    (shell.propose view surface change).1.frame = shell.frame :=
  configure_frame shell present (Role.bare_mapToplevel _ _)

theorem moveResize_frame {view : View} {surface : Surface}
    (present : shell.surfaces.get? view.surface = some surface) (id : ViewId) (bounds : SizeBounds)
    (position : Point) (size : Extent) :
    (shell.moveResize id view surface bounds position size).frame = shell.frame := by
  have proposed := propose_frame present fun state => { state with size := bounds.constrain size }
  simp only [moveResize]
  split
  · exact (changeView_frame _ (by exact fun _ => rfl)).trans proposed
  · rw [placeView_frame]
    exact (changeView_frame _ (by exact fun _ => rfl)).trans proposed

/-- Window management changes the frame only where it forgets a view. -/
theorem call_frame (id : ViewId) {call : WindowCall} (keeps : call ≠ .destroy) :
    (shell.call id call).frame = shell.frame := by
  have carried := call_carried shell id call
  generalize shell.call id call = after at carried
  cases carried with
  | forget => exact absurd rfl keeps
  | miss => rfl
  | close => rfl
  | propose window => exact propose_frame (window?_eq_some.mp window).2.1 _
  | moveResize _ _ window => exact moveResize_frame (window?_eq_some.mp window).2.1 _ _ _ _

/-- An act that creates and forgets nothing leaves the frame alone. -/
theorem perform_frame {act : Act} (keeps : ¬ act.Structural) :
    (shell.perform act).shell.frame = shell.frame := by
  cases act with
  | call view call =>
    refine call_frame view ?_
    rintro rfl
    exact keeps trivial
  | request request =>
    cases request with
    | newToplevel | newPopup | destroy => exact absurd trivial keeps
    | setMinSize | setMaxSize =>
      exact changeSurface_frame (by simp) fun _ _ done => Surface.bare_changeToplevel done
    | ack =>
      exact changeSurface_frame (by simp) fun _ _ done => congrArg Role.bare (Surface.role_ack done)
    | commit surface commit => exact commit_frame surface commit
    | move | resize | maximize | fullscreen => exact forward_frame _ trivial

/-- **Every act is made up of moves**, and creates at most one record. -/
theorem perform_moves (sound : shell.Sound) (roled : shell.Roled) (act : Act) :
    ∃ births ≤ 1, Moves births shell (shell.perform act).shell := by
  by_cases structural : act.Structural
  swap
  · exact ⟨0, Nat.zero_le 1, .single (.alike (perform_frame structural))⟩
  cases act with
  | call view call =>
    cases call with
    | destroy => exact ⟨0, Nat.zero_le 1, .single (.forgetView view)⟩
    | _ => cases structural
  | request request =>
    cases request with
    | newToplevel surface => exact newToplevel_moves sound roled surface
    | newPopup surface parent geometry => exact newPopup_moves sound roled surface parent geometry
    | destroy surface =>
      refine ⟨0, Nat.zero_le 1, ?_⟩
      obtain ⟨ids, gone⟩ := destroy_removes shell surface
      rw [perform, handle, gone]
      exact removeAll_moves sound ids
    | _ => cases structural

end Acts

theorem fresh_sound (settings : Settings) (seats : Table SeatId SeatMode) (refusals : Nat) :
    (fresh settings seats refusals).Sound where
  held := .fresh settings seats refusals
  fits target _ found := by cases target <;> cases found
  alone first _ _ _ found := by cases first <;> cases found

theorem perform_sound {shell : Shell} (sound : shell.Sound) (roled : shell.Roled) (act : Act) :
    (shell.perform act).shell.Sound := by
  obtain ⟨_, -, moves⟩ := perform_moves sound roled act
  exact moves.sound sound

/-- **Views and popups wrap surfaces soundly**, however long the run. -/
theorem Reached.sound {count : Nat} {shell : Shell} (reached : Reached count shell) :
    shell.Sound := by
  induction reached with
  | fresh _ settings seats refusals => exact fresh_sound settings seats refusals
  | act act reached ih => exact perform_sound ih reached.roled act

end Shell

end WindowShell
