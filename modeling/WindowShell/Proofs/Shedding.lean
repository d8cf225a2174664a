/-
**What goes with a surface.**

A surface that is removed is hidden first: a popup with a record damages the view at its root if it was
visible, and a window with a view tells of it. Then the record goes with its listeners. Nothing else is
touched, neither another surface nor what is on it.

* `Sheds`: surfaces go with the records on them, and with nothing else;
* `Sheds.flat`: records stay anchored when surfaces go with everything below them;
* `removeSurface_alone`, `removeSurface_popup`, `removeSurface_window`: one surface is removed, and this
  is what the desktop is told;
* `removeAll_sheds`: so are surfaces without views, one by one.
-/

import WindowShell.Proofs.Anchorage

namespace WindowShell

namespace Shell

/-- Whether a surface is visible. -/
def shows (shell : Shell) (id : SurfaceId) : Bool := (shell.surfaces.get? id).any Surface.mapped

/-- The view that is damaged when a surface goes: that of its popup record, if it is visible. -/
def damageOf? (shell : Shell) (id : SurfaceId) : Option ViewId :=
  if shell.shows id then
    (shell.popupOf? id).bind fun popup => (shell.popups.get? popup).map Popup.view
  else none

/-- What the desktop is told when the view of a surface goes. -/
def farewell (shell : Shell) (id : SurfaceId) : List Event :=
  match shell.viewOf? id with
  | none => []
  | some view => (if shell.shows id then [.unmapped view] else []) ++ [.destroyed view]

/-- **Surfaces are shed**: they go with what is on them, and nothing else is touched. -/
structure Sheds (ids : List SurfaceId) (before after : Shell) : Prop where
  surfaces : ∀ id, after.surfaces.get? id = if id ∈ ids then none else before.surfaces.get? id
  popups : ∀ popup, after.popups.get? popup =
    (before.popups.get? popup).filter fun record => record.surface ∉ ids
  faces : ∀ view, after.faceOf? view = (before.faceOf? view).filter fun face => face.surface ∉ ids

/-! ### Who is on a surface -/

section Finding

variable {shell : Shell} {view : ViewId} {popup : PopupId} {id : SurfaceId}

theorem Sound.viewOf?_eq (sound : shell.Sound) {record : View}
    (found : shell.views.get? view = some record) : shell.viewOf? record.surface = some view :=
  Table.findKey?_of_unique found (decide_eq_true rfl) fun _ _ there same =>
    sound.views_apart there found (of_decide_eq_true same)

theorem Sound.popupOf?_eq (sound : shell.Sound) {record : Popup}
    (found : shell.popups.get? popup = some record) : shell.popupOf? record.surface = some popup :=
  Table.findKey?_of_unique found (decide_eq_true rfl) fun _ _ there same =>
    sound.popups_apart there found (of_decide_eq_true same)

theorem viewOf?_eq_none_iff :
    shell.viewOf? id = none ↔
      ∀ view record, shell.views.get? view = some record → record.surface ≠ id := by
  simp only [viewOf?, Table.findKey?_eq_none_iff, decide_eq_true_eq, ne_eq]

theorem Unfollowed.viewOf? (alone : shell.Unfollowed id) : shell.viewOf? id = none :=
  viewOf?_eq_none_iff.mpr fun view record live =>
    alone (.view view) record.wrapping (by rw [wrapping?, live, Option.map_some])

theorem Unfollowed.popupOf? (alone : shell.Unfollowed id) : shell.popupOf? id = none :=
  Table.findKey?_eq_none_iff.mpr fun popup record found =>
    mt of_decide_eq_true
      (alone (.popup popup) record.wrapping (by rw [wrapping?, found, Option.map_some]))

/-- A view is damaged by a surface that is visible and has a record of this view. -/
theorem damageOf?_eq_some_iff (sound : shell.Sound) :
    shell.damageOf? id = some view ↔ shell.shows id ∧ shell.PopupOn view id := by
  unfold damageOf?
  by_cases visible : shell.shows id
  · rw [if_pos visible]
    simp only [Option.bind_eq_some_iff, Option.map_eq_some_iff]
    constructor
    · rintro ⟨popup, wraps, record, found, rfl⟩
      obtain ⟨_, there, same⟩ := Table.findKey?_eq_some wraps
      obtain rfl := Option.some.inj (found.symm.trans there)
      exact ⟨visible, popup, record, found, of_decide_eq_true same, rfl⟩
    · rintro ⟨-, popup, record, found, rfl, rfl⟩
      exact ⟨popup, sound.popupOf?_eq found, record, found, rfl⟩
  · rw [if_neg visible]
    constructor
    · intro none
      cases none
    · exact fun both => absurd both.1 visible

end Finding

/-! ### Shedding -/

theorem filter_eq_self {α : Type} {option : Option α} {keep : α → Prop} [DecidablePred keep]
    (all : ∀ value, option = some value → keep value) :
    option.filter (fun value => keep value) = option := by
  cases option with
  | none => rfl
  | some value => exact Option.filter_some_pos (decide_eq_true (all value rfl))

namespace Sheds

variable {before after first second third : Shell} {ids more : List SurfaceId} {view : ViewId}
  {id : SurfaceId} {record : View}

theorem refl (shell : Shell) : Sheds [] shell shell where
  surfaces _ := (if_neg List.not_mem_nil).symm
  popups _ := (filter_eq_self (by simp)).symm
  faces _ := (filter_eq_self (by simp)).symm

theorem trans (early : Sheds ids first second) (late : Sheds more second third) :
    Sheds (ids ++ more) first third where
  surfaces id := by
    rw [late.surfaces, early.surfaces]
    by_cases gone : id ∈ ids <;> by_cases later : id ∈ more <;> simp [gone, later]
  popups popup := by
    rw [late.popups, early.popups, Option.filter_filter]
    congr 1
    funext record
    simp
  faces view := by
    rw [late.faces, early.faces, Option.filter_filter]
    congr 1
    funext face
    simp

/-- A view that is left is one of those before, and its surface stays. -/
theorem of_view (sheds : Sheds ids before after) (found : after.views.get? view = some record) :
    record.surface ∉ ids ∧
      ∃ old, before.views.get? view = some old ∧ old.face = record.face := by
  have face : after.faceOf? view = some record.face := by rw [faceOf?, found, Option.map_some]
  rw [sheds.faces, Option.filter_eq_some_iff] at face
  exact ⟨of_decide_eq_true face.2, Option.map_eq_some_iff.mp face.1⟩

/-- The view of a surface that stays is left. -/
theorem view_kept (sheds : Sheds ids before after) (found : before.views.get? view = some record)
    (kept : record.surface ∉ ids) :
    ∃ new, after.views.get? view = some new ∧ new.face = record.face := by
  have face : after.faceOf? view = some record.face := by
    rw [sheds.faces, faceOf?, found, Option.map_some]
    exact Option.filter_some_pos (decide_eq_true kept)
  exact Option.map_eq_some_iff.mp face

theorem popupOn_iff (sheds : Sheds ids before after) :
    after.PopupOn view id ↔ before.PopupOn view id ∧ id ∉ ids := by
  constructor
  · rintro ⟨popup, record, found, rfl, rfl⟩
    rw [sheds.popups, Option.filter_eq_some_iff] at found
    exact ⟨⟨popup, record, found.1, rfl, rfl⟩, of_decide_eq_true found.2⟩
  · rintro ⟨⟨popup, record, found, rfl, rfl⟩, kept⟩
    refine ⟨popup, record, ?_, rfl, rfl⟩
    rw [sheds.popups, found]
    exact Option.filter_some_pos (decide_eq_true kept)

/-- What a surface that stays would damage does not change. -/
theorem damageOf?_kept (sheds : Sheds ids before after) (sound : before.Sound) (also : after.Sound)
    (kept : id ∉ ids) : after.damageOf? id = before.damageOf? id := by
  ext view
  have shown : after.shows id = before.shows id := by rw [shows, sheds.surfaces, if_neg kept, shows]
  rw [damageOf?_eq_some_iff also, damageOf?_eq_some_iff sound, shown, sheds.popupOn_iff,
    and_iff_left kept]

/-- Records stay anchored, if whatever stays keeps what it hangs on. -/
theorem flat (sheds : Sheds ids before after) (flat : before.Flat)
    (closed : ∀ child parent, before.Child child parent → child ∉ ids → parent ∉ ids) :
    after.Flat := by
  intro popup record found
  rw [sheds.popups, Option.filter_eq_some_iff] at found
  obtain ⟨there, kept⟩ := found
  refine (flat popup record there).carry (· ∉ ids) (of_decide_eq_true kept) ?_ ?_ ?_
  · rintro child parent stays ⟨surface, present, hangs⟩
    refine ⟨⟨surface, ?_, hangs⟩, closed child parent ⟨surface, present, hangs⟩ stays⟩
    rw [sheds.surfaces, if_neg stays, present]
  · exact fun id stays recorded => sheds.popupOn_iff.mpr ⟨recorded, stays⟩
  · rintro id stays ⟨owner, surface, live, rfl, present, toplevel⟩
    obtain ⟨new, left, face⟩ := sheds.view_kept live stays
    have wraps : new.face.surface = owner.face.surface := congrArg View.surface face
    refine ⟨new, surface, left, wraps, ?_, toplevel⟩
    rw [sheds.surfaces, if_neg stays, present]

end Sheds

/-! ### Removing one surface -/

section Removing

variable {shell : Shell} {view : ViewId} {popup : PopupId} {id : SurfaceId} {surface : Surface}

/-- Only the record of a popup notices that it is hidden, and the view at its root is damaged. -/
theorem hidden_popup (sound : shell.Sound) {record : Popup}
    (found : shell.popups.get? popup = some record)
    (present : shell.surfaces.get? record.surface = some surface) :
    (shell.hidden record.surface surface).views = shell.views ∧
      (∀ other, other ≠ popup → (shell.hidden record.surface surface).popups.get? other =
        shell.popups.get? other) ∧
      (shell.hidden record.surface surface).desktop.events = shell.desktop.events ++
        if surface.mapped then [.fullyDamaged record.view] else [] := by
  have there : (shell.putSurface record.surface surface.hide).popups.get? popup = some record := found
  have stored : (shell.putSurface record.surface surface.hide).Sound :=
    sound.congr (putSurface_frame shell present rfl)
  unfold hidden
  by_cases visible : surface.mapped
  · rw [if_pos visible, if_pos visible, stored.emit_popup there, deliverToPopup, there]
    refine ⟨rfl, fun other differ => ?_, rfl⟩
    show (shell.popups.modify popup _).get? other = _
    rw [Table.get?_modify, if_neg differ]
  · rw [if_neg visible, if_neg visible]
    exact ⟨rfl, fun _ _ => rfl, (List.append_nil _).symm⟩

/-- Only the view of a window notices that it is hidden, and the desktop is told. -/
theorem hidden_window (sound : shell.Sound) {record : View}
    (found : shell.views.get? view = some record)
    (present : shell.surfaces.get? record.surface = some surface)
    (same : record.mapped = surface.mapped) :
    (shell.hidden record.surface surface).popups = shell.popups ∧
      (∀ other, other ≠ view → (shell.hidden record.surface surface).views.get? other =
        shell.views.get? other) ∧
      (shell.hidden record.surface surface).views.get? view = some { record with mapped := false } ∧
      (shell.hidden record.surface surface).desktop.events = shell.desktop.events ++
        if surface.mapped then [.unmapped view] else [] := by
  have there : (shell.putSurface record.surface surface.hide).views.get? view = some record := found
  have stored : (shell.putSurface record.surface surface.hide).Sound :=
    sound.congr (putSurface_frame shell present rfl)
  unfold hidden
  by_cases visible : surface.mapped
  · rw [if_pos visible, if_pos visible, stored.emit_view there, deliverToView,
      viewUnmapped_of_visible there (same.trans visible)]
    refine ⟨rfl, fun other differ => ?_, changeView_view there _, rfl⟩
    show (shell.views.modify view _).get? other = _
    rw [Table.get?_modify, if_neg differ]
  · rw [if_neg visible, if_neg visible]
    refine ⟨rfl, fun _ _ => rfl, ?_, (List.append_nil _).symm⟩
    rw [Bool.not_eq_true] at visible
    rw [there, ← visible, ← same]

theorem shows_of_present (present : shell.surfaces.get? id = some surface) :
    shell.shows id = surface.mapped := by
  rw [shows, present, Option.any_some]

theorem damageOf?_of_popup (sound : shell.Sound) {record : Popup}
    (found : shell.popups.get? popup = some record)
    (present : shell.surfaces.get? record.surface = some surface) :
    shell.damageOf? record.surface = if surface.mapped then some record.view else none := by
  rw [damageOf?, shows_of_present present, sound.popupOf?_eq found, Option.bind_some, found,
    Option.map_some]

/-- A window has no popup record. -/
theorem damageOf?_of_view (sound : shell.Sound) {record : View}
    (found : shell.views.get? view = some record) : shell.damageOf? record.surface = none := by
  refine Option.eq_none_iff_forall_ne_some.mpr fun other damages => ?_
  obtain ⟨-, popup, below, there, same, -⟩ := (damageOf?_eq_some_iff sound).mp damages
  exact sound.apart found there same.symm

theorem farewell_of_view (sound : shell.Sound) {record : View}
    (found : shell.views.get? view = some record)
    (present : shell.surfaces.get? record.surface = some surface) :
    shell.farewell record.surface =
      (if surface.mapped then [.unmapped view] else []) ++ [.destroyed view] := by
  rw [farewell, sound.viewOf?_eq found, shows_of_present present]

theorem removeSurface_surfaces_get? (shell : Shell) (id other : SurfaceId) :
    (shell.removeSurface id).surfaces.get? other =
      if other ∈ [id] then none else shell.surfaces.get? other := by
  simp only [removeSurface_get?, List.mem_singleton]

/-- A surface that nothing follows goes without a word. -/
theorem removeSurface_unheard (sound : shell.Sound) (alone : shell.Unfollowed id) :
    ∃ surfaces, shell.removeSurface id = { shell with surfaces } := by
  unfold removeSurface
  split
  · exact ⟨shell.surfaces, rfl⟩
  · next surface present =>
    have stored : (shell.putSurface id surface.hide).Sound :=
      sound.congr (putSurface_frame shell present rfl)
    have unheard : ∀ signal, (shell.putSurface id surface.hide).emit id signal =
        shell.putSurface id surface.hide := fun signal => emit_unfollowed stored.held alone signal
    simp only [unheard, ite_self]
    exact ⟨_, rfl⟩

/-- A surface that nothing follows takes nothing else along. -/
theorem removeSurface_alone (sound : shell.Sound) (alone : shell.Unfollowed id) :
    Sheds [id] shell (shell.removeSurface id) ∧
      (shell.removeSurface id).desktop.events =
        shell.desktop.events ++ (shell.damageOf? id).toList.map .fullyDamaged := by
  have harmless : shell.damageOf? id = none := by
    refine Option.eq_none_iff_forall_ne_some.mpr fun view damages => ?_
    obtain ⟨-, popup, record, found, wraps, -⟩ := (damageOf?_eq_some_iff sound).mp damages
    exact alone (.popup popup) record.wrapping (by rw [wrapping?, found]; rfl) wraps
  obtain ⟨table, removed⟩ := removeSurface_unheard sound alone
  refine ⟨⟨removeSurface_surfaces_get? shell id, fun popup => ?_, fun view => ?_⟩, ?_⟩
  · rw [removed]
    refine (filter_eq_self fun record found member => ?_).symm
    exact alone (.popup popup) record.wrapping (by rw [wrapping?, found]; rfl)
      (List.mem_singleton.mp member)
  · rw [removed]
    refine (filter_eq_self fun face found member => ?_).symm
    obtain ⟨record, there, rfl⟩ := Option.map_eq_some_iff.mp found
    exact alone (.view view) record.wrapping (by rw [wrapping?, there]; rfl)
      (List.mem_singleton.mp member)
  · rw [removed, harmless]
    exact (List.append_nil _).symm

/-- A popup goes with its record. -/
theorem removeSurface_popup (sound : shell.Sound) {record : Popup}
    (found : shell.popups.get? popup = some record) :
    Sheds [record.surface] shell (shell.removeSurface record.surface) ∧
      (shell.removeSurface record.surface).desktop.events =
        shell.desktop.events ++ (shell.damageOf? record.surface).toList.map .fullyDamaged := by
  obtain ⟨surface, present, -⟩ := sound.popup_fits found
  obtain ⟨views, others, events⟩ := hidden_popup sound found present
  have frame := hidden_frame present
  have announced : (shell.hidden record.surface surface).emit record.surface .destroy =
      (shell.hidden record.surface surface).forgetPopup popup := by
    obtain ⟨kept, left, core⟩ := popup_of_frame frame.symm found
    have heard := (sound.congr frame).emit_popup left .destroy
    rwa [Popup.surface_of_core core, deliverToPopup, left] at heard
  have removed := removeSurface_of_present present
  rw [announced] at removed
  refine ⟨⟨removeSurface_surfaces_get? shell record.surface, fun other => ?_, fun view => ?_⟩, ?_⟩
  · rw [removed]
    show ((shell.hidden record.surface surface).forgetPopup popup).popups.get? other = _
    rw [popups_forgetPopup]
    by_cases same : other = popup
    · rw [if_pos same, same, found]
      exact (Option.filter_some_neg (by simp)).symm
    · rw [if_neg same, others other same]
      refine (filter_eq_self ?_).symm
      intro also there member
      exact same (sound.popups_apart there found (List.mem_singleton.mp member))
  · rw [removed]
    show ((shell.hidden record.surface surface).forgetPopup popup).faceOf? view = _
    rw [faceOf?_forgetPopup, faceOf?, views, ← faceOf?]
    refine (filter_eq_self fun face there member => ?_).symm
    obtain ⟨owner, live, rfl⟩ := Option.map_eq_some_iff.mp there
    exact sound.apart live found (List.mem_singleton.mp member)
  · have told : ((shell.hidden record.surface surface).forgetPopup popup).desktop =
        (shell.hidden record.surface surface).desktop := forgetPopups_desktop _ [popup]
    rw [removed]
    show ((shell.hidden record.surface surface).forgetPopup popup).desktop.events = _
    rw [told, events, damageOf?_of_popup sound found present]
    split <;> rfl

/-- **A surface without a view is removed.** -/
theorem removeSurface_sheds (sound : shell.Sound) (id : SurfaceId)
    (free : ∀ view record, shell.views.get? view = some record → record.surface ≠ id) :
    Sheds [id] shell (shell.removeSurface id) ∧
      (shell.removeSurface id).desktop.events =
        shell.desktop.events ++ (shell.damageOf? id).toList.map .fullyDamaged := by
  rcases followed_or_unfollowed shell id with ⟨target, wrapping, found, rfl⟩ | alone
  · cases target with
    | view view =>
      obtain ⟨record, there, rfl⟩ := Option.map_eq_some_iff.mp found
      exact absurd rfl (free view record there)
    | popup popup =>
      obtain ⟨record, there, rfl⟩ := Option.map_eq_some_iff.mp found
      exact removeSurface_popup sound there
  · exact removeSurface_alone sound alone

/-- **A window with a view is removed**, once the view has no popups any more. -/
theorem removeSurface_window (sound : shell.Sound) {record : View}
    (found : shell.views.get? view = some record)
    (present : shell.surfaces.get? record.surface = some surface)
    (same : record.mapped = surface.mapped) (alone : record.popups = []) :
    Sheds [record.surface] shell (shell.removeSurface record.surface) ∧
      (shell.removeSurface record.surface).desktop.events =
        shell.desktop.events ++ shell.farewell record.surface := by
  obtain ⟨popups, others, changed, events⟩ := hidden_window sound found present same
  have announced : (shell.hidden record.surface surface).emit record.surface .destroy =
      ((shell.hidden record.surface surface).dropView view).tell (.destroyed view) := by
    refine ((sound.congr (hidden_frame present)).emit_view changed .destroy).trans ?_
    simp only [deliverToView, viewDestroyed, changed, Bool.false_eq_true, if_false]
    rw [forgetView_of_some _ changed]
    simp only [alone, List.foldl_nil]
  have removed := removeSurface_of_present present
  rw [announced] at removed
  refine ⟨⟨removeSurface_surfaces_get? shell record.surface, fun popup => ?_, fun other => ?_⟩, ?_⟩
  · rw [removed]
    show (shell.hidden record.surface surface).popups.get? popup = _
    rw [popups]
    refine (filter_eq_self fun listed there member => ?_).symm
    exact sound.apart found there (List.mem_singleton.mp member).symm
  · rw [removed]
    show (((shell.hidden record.surface surface).views.erase view).get? other).map View.face = _
    rw [Table.get?_erase]
    by_cases here : other = view
    · rw [if_pos here, here, faceOf?, found]
      exact (Option.filter_some_neg (by simp [View.face])).symm
    · rw [if_neg here, others other here, ← faceOf?]
      refine (filter_eq_self ?_).symm
      intro face there member
      obtain ⟨another, live, rfl⟩ := Option.map_eq_some_iff.mp there
      exact here (sound.views_apart live found (List.mem_singleton.mp member))
  · rw [removed]
    show (shell.hidden record.surface surface).desktop.events ++ [.destroyed view] = _
    rw [events, farewell_of_view sound found present, List.append_assoc]

/-- **Surfaces without views are removed one by one.** -/
theorem removeAll_sheds (sound : shell.Sound) {ids : List SurfaceId} (distinct : ids.Nodup)
    (free : ∀ view record, shell.views.get? view = some record → record.surface ∉ ids) :
    Sheds ids shell (ids.foldl removeSurface shell) ∧
      (ids.foldl removeSurface shell).desktop.events =
        shell.desktop.events ++ (ids.filterMap shell.damageOf?).map .fullyDamaged := by
  induction ids generalizing shell with
  | nil => exact ⟨.refl shell, (List.append_nil _).symm⟩
  | cons id ids ih =>
    obtain ⟨new, distinct⟩ := List.nodup_cons.mp distinct
    have next := (removeSurface_moves sound id).sound sound
    obtain ⟨first, told⟩ := removeSurface_sheds sound id fun view record found same =>
      free view record found (same ▸ List.mem_cons_self)
    have later : ∀ view record, (shell.removeSurface id).views.get? view = some record →
        record.surface ∉ ids := by
      intro view record found member
      obtain ⟨-, old, there, face⟩ := first.of_view found
      have same : old.face.surface = record.face.surface := congrArg View.surface face
      exact free view old there (List.mem_cons_of_mem id (same ▸ member))
    obtain ⟨rest, more⟩ := ih next distinct later
    have damages : ids.filterMap (shell.removeSurface id).damageOf? =
        ids.filterMap shell.damageOf? := by
      refine List.filterMap_congr fun other member => first.damageOf?_kept sound next ?_
      rw [List.mem_singleton]
      rintro rfl
      exact new member
    refine ⟨first.trans rest, ?_⟩
    rw [List.foldl_cons, more, told, damages, List.filterMap_cons, List.append_assoc]
    cases shell.damageOf? id <;> rfl

end Removing

end Shell

end WindowShell
