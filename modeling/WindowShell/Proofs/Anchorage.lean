/-
**Where popups are anchored.**

Which popup hangs on which is known in two ways. Surfaces name their parents, so that chains of them lead
up to windows. Popup records name no parent, but the view of the window at the root. The two ways agree:
from a surface with a record the parents lead, past surfaces with records of the same view, to the window
that this view wraps.

* `Anchored`, `Flat`: the agreement, for one surface and for all records;
* `Anchored.carry`: what it takes to carry a chain over to another shell;
* `RootView.unique`, `RootView.above`: a chain leads to one view only, wherever it starts;
* `newToplevel_flat`, `newPopup_flat`, `forgetView_flat`: opening windows and popups keeps the agreement,
  and so does forgetting a view.
-/

import WindowShell.Proofs.Ancestry
import WindowShell.Proofs.Narration

namespace WindowShell

namespace Shell

/-- A surface is a window, and a live view wraps it. -/
def WindowOf (shell : Shell) (view : ViewId) (id : SurfaceId) : Prop :=
  ∃ record surface, shell.views.get? view = some record ∧ record.surface = id ∧
    shell.surfaces.get? id = some surface ∧ surface.isToplevel

/-- A surface has a popup record, and that belongs to a view. -/
def PopupOn (shell : Shell) (view : ViewId) (id : SurfaceId) : Prop :=
  ∃ popup record, shell.popups.get? popup = some record ∧ record.surface = id ∧ record.view = view

/-- **A surface is anchored to a view**: it is the window of the view, or a popup with a record of the
view, whose parent is anchored there as well. -/
inductive Anchored (shell : Shell) (view : ViewId) : SurfaceId → Prop
  | window {id : SurfaceId} (wraps : shell.WindowOf view id) : Anchored shell view id
  | popup {id parent : SurfaceId} (hangs : shell.Child id parent) (recorded : shell.PopupOn view id)
      (rest : Anchored shell view parent) : Anchored shell view id

/-- Every popup record names the view that its surface is anchored to. -/
def Flat (shell : Shell) : Prop :=
  ∀ popup record, shell.popups.get? popup = some record → shell.Anchored record.view record.surface

/-- The chain of parents of a surface ends at the window of a view. -/
def RootView (shell : Shell) (id : SurfaceId) (view : ViewId) : Prop :=
  ∃ window, shell.Below id window ∧ shell.WindowOf view window

section Chains

variable {shell before after : Shell} {view other : ViewId} {id parent higher : SurfaceId}

/-! ### Where chains end -/

/-- A window hangs on nothing. -/
theorem top_of_toplevel {surface : Surface} (present : shell.surfaces.get? id = some surface)
    (toplevel : surface.isToplevel) : ¬ shell.Child id parent := by
  rintro ⟨stored, found, hangs⟩
  obtain rfl := Option.some.inj (found.symm.trans present)
  obtain ⟨state, role⟩ := Surface.isToplevel_iff.mp toplevel
  rw [role] at hangs
  cases hangs

/-- Nothing is above a window. -/
theorem Below.eq_of_toplevel (below : shell.Below id higher) {surface : Surface}
    (present : shell.surfaces.get? id = some surface) (toplevel : surface.isToplevel) : higher = id := by
  rcases Relation.ReflTransGen.cases_head below with same | ⟨parent, hangs, -⟩
  · exact same.symm
  · exact absurd hangs (top_of_toplevel present toplevel)

theorem WindowOf.eq_of_below (wraps : shell.WindowOf view id) (below : shell.Below id higher) :
    higher = id := by
  obtain ⟨_, surface, -, -, present, toplevel⟩ := wraps
  exact Below.eq_of_toplevel below present toplevel

/-- A view wraps one window. -/
theorem WindowOf.surface_eq (wraps : shell.WindowOf view id) (also : shell.WindowOf view parent) :
    id = parent := by
  obtain ⟨record, -, live, mine, -⟩ := wraps
  obtain ⟨other, -, found, yours, -⟩ := also
  obtain rfl := Option.some.inj (live.symm.trans found)
  exact mine.symm.trans yours

theorem Sound.windowOf (sound : shell.Sound) {record : View}
    (found : shell.views.get? view = some record) : shell.WindowOf view record.surface := by
  obtain ⟨surface, present, toplevel⟩ := sound.view_fits found
  exact ⟨record, surface, found, rfl, present, toplevel⟩

theorem Anchored.rootView (anchored : shell.Anchored view id) : shell.RootView id view := by
  induction anchored with
  | window wraps => exact ⟨_, .refl, wraps⟩
  | popup hangs recorded rest ih =>
    obtain ⟨window, below, wraps⟩ := ih
    exact ⟨window, .head hangs below, wraps⟩

/-- Whatever is above a surface shares its root. -/
theorem RootView.above (root : shell.RootView id view) (below : shell.Below id higher) :
    shell.RootView higher view := by
  obtain ⟨window, leads, wraps⟩ := root
  rcases below.total leads with onward | back
  · exact ⟨window, onward, wraps⟩
  · obtain rfl := wraps.eq_of_below back
    exact ⟨higher, .refl, wraps⟩

/-- **A chain leads to one view only.** -/
theorem RootView.unique (sound : shell.Sound) (one : shell.RootView id view)
    (two : shell.RootView id other) : view = other := by
  obtain ⟨window, below, wraps⟩ := two
  obtain ⟨top, leads, also⟩ := one.above below
  obtain rfl := wraps.eq_of_below leads
  obtain ⟨first, -, live, mine, -⟩ := also
  obtain ⟨second, -, found, yours, -⟩ := wraps
  exact sound.views_apart live found (mine.trans yours.symm)

/-! ### Chains in another shell -/

/-- **A chain is carried over**, where it stays among surfaces that are kept with what is on them. -/
theorem Anchored.carry (keep : SurfaceId → Prop) (anchored : before.Anchored view id)
    (kept : keep id)
    (children : ∀ child parent, keep child → before.Child child parent →
      after.Child child parent ∧ keep parent)
    (records : ∀ id, keep id → before.PopupOn view id → after.PopupOn view id)
    (windows : ∀ id, keep id → before.WindowOf view id → after.WindowOf view id) :
    after.Anchored view id := by
  induction anchored with
  | window wraps => exact .window (windows _ kept wraps)
  | popup hangs recorded rest ih =>
    obtain ⟨still, stays⟩ := children _ _ kept hangs
    exact .popup still (records _ kept recorded) (ih stays)

theorem Child.congr (same : after.frame = before.frame) (hangs : before.Child id parent) :
    after.Child id parent := by
  obtain ⟨surface, found, above⟩ := hangs
  have roles : after.frame.roles id = before.frame.roles id := by rw [same]
  rw [roles_frame, roles_frame, found, Option.map_some] at roles
  obtain ⟨kept, there, bare⟩ := Option.map_eq_some_iff.mp roles
  exact ⟨kept, there, by rw [← Role.parent?_bare, bare, Role.parent?_bare, above]⟩

theorem PopupOn.congr (same : after.frame = before.frame) (recorded : before.PopupOn view id) :
    after.PopupOn view id := by
  obtain ⟨popup, record, found, rfl, rfl⟩ := recorded
  obtain ⟨kept, there, core⟩ := popup_of_frame same.symm found
  exact ⟨popup, kept, there, Popup.surface_of_core core, Popup.view_of_core core⟩

theorem WindowOf.congr (same : after.frame = before.frame) (wraps : before.WindowOf view id) :
    after.WindowOf view id := by
  obtain ⟨record, surface, live, rfl, present, toplevel⟩ := wraps
  obtain ⟨kept, there, core⟩ := view_of_frame same.symm live
  have roles : after.frame.roles record.surface = before.frame.roles record.surface := by rw [same]
  rw [roles_frame, roles_frame, present, Option.map_some] at roles
  obtain ⟨stored, found, bare⟩ := Option.map_eq_some_iff.mp roles
  refine ⟨kept, stored, there, View.surface_of_core core, found, ?_⟩
  rw [Surface.isToplevel, ← Role.isSome_toplevel?_bare, bare, Role.isSome_toplevel?_bare]
  exact toplevel

/-- What is outside the frame does not matter. -/
theorem Flat.congr (flat : before.Flat) (same : after.frame = before.frame) : after.Flat := by
  intro popup record found
  obtain ⟨old, there, core⟩ := popup_of_frame same found
  have anchored := flat popup old there
  rw [Popup.view_of_core core, Popup.surface_of_core core] at anchored
  exact anchored.carry (fun _ => True) trivial (fun _ _ _ hangs => ⟨hangs.congr same, trivial⟩)
    (fun _ _ recorded => recorded.congr same) fun _ _ wraps => wraps.congr same

end Chains

/-! ### Surfaces, views and popups that are new -/

section Arrivals

variable {shell : Shell} {count : Nat} {view : ViewId} {id parent : SurfaceId}

/-- A surface that is new does not matter. -/
theorem putSurface_flat (flat : shell.Flat) (new : shell.surfaces.get? id = none)
    (surface : Surface) : (shell.putSurface id surface).Flat := by
  have kept : ∀ {other found}, shell.surfaces.get? other = some found →
      (shell.putSurface id surface).surfaces.get? other = some found := by
    intro other found present
    rw [putSurface, Table.get?_insert, if_neg, present]
    rintro rfl
    rw [new] at present
    cases present
  intro popup record found
  refine (flat popup record found).carry (fun _ => True) trivial ?_ (fun _ _ recorded => recorded) ?_
  · rintro child parent - ⟨surface, present, hangs⟩
    exact ⟨⟨surface, kept present, hangs⟩, trivial⟩
  · rintro window - ⟨record, surface, live, wraps, present, toplevel⟩
    exact ⟨record, surface, live, wraps, kept present, toplevel⟩

/-- A new view takes the place of no other, as long as the count does not wrap around. -/
theorem createView_flat (linked : Linked count shell) (small : count + 1 < 2 ^ 32)
    (flat : shell.Flat) (surface : SurfaceId) : (shell.createView surface).Flat := by
  rcases createView_cases shell surface with same | ⟨created, -⟩
  · exact flat.congr same
  rw [created]
  intro popup record found
  refine (flat popup record found).carry (fun _ => True) trivial (fun _ _ _ hangs => ⟨hangs, trivial⟩)
    (fun _ _ recorded => recorded) ?_
  rintro window - ⟨owner, surface, live, wraps, present, toplevel⟩
  refine ⟨owner, surface, ?_, wraps, present, toplevel⟩
  rw [withView, Table.get?_insert, if_neg, live]
  intro same
  rw [same, linked.nextView_unused small] at live
  cases live

/-- A new popup takes the place of no other, and it is anchored where its parent is. -/
theorem createPopup_flat (linked : Linked count shell) (small : count + 1 < 2 ^ 32)
    (flat : shell.Flat) (hangs : shell.Child id parent) (anchored : shell.Anchored view parent) :
    (shell.createPopup view id).Flat := by
  rcases createPopup_cases shell view id with same | ⟨-, created⟩
  · rwa [same]
  rw [created]
  have carried : ∀ {target surface}, shell.Anchored target surface →
      (shell.withPopup view id).Anchored target surface := by
    intro target surface chain
    refine chain.carry (fun _ => True) trivial (fun _ _ _ hangs => ⟨hangs, trivial⟩) ?_ ?_
    · rintro other - ⟨popup, record, found, rfl, rfl⟩
      refine ⟨popup, record, ?_, rfl, rfl⟩
      rw [withPopup, Table.get?_insert, if_neg, found]
      intro same
      rw [same, linked.nextPopup_unused small] at found
      cases found
    · rintro window - ⟨owner, surface, live, wraps, present, toplevel⟩
      rw [WindowOf, withPopup]
      simp only [Table.get?_modify]
      split
      · exact ⟨_, surface, congrArg (Option.map _) live, wraps, present, toplevel⟩
      · exact ⟨owner, surface, live, wraps, present, toplevel⟩
  intro popup record found
  by_cases new : popup = shell.nextPopup
  · have there := found
    rw [withPopup, new, Table.get?_insert, if_pos rfl, Option.some.injEq] at found
    rw [← found]
    exact .popup hangs ⟨popup, record, there, by rw [← found], by rw [← found]⟩ (carried anchored)
  · rw [withPopup, Table.get?_insert, if_neg new] at found
    exact carried (flat popup record found)

theorem newToplevel_flat (whole : Whole count shell) (roled : shell.Roled) (flat : shell.Flat)
    (id : SurfaceId) : (shell.newToplevel id).shell.Flat := by
  rcases newToplevel_cases roled id with ⟨fault, refused⟩ | ⟨new, taken⟩
  · rw [refused]
    exact flat
  · have stored := putSurface_flat flat new { role := .toplevel {} }
    have arrived : Linked count (shell.putSurface id { role := .toplevel {} }) :=
      whole.linked.move (.surface id (.toplevel {}) new) (Nat.lt_of_succ_lt whole.small)
    have same := ping_frame (shell.putSurface id { role := .toplevel {} }) id
    rw [taken]
    exact createView_flat (arrived.congr same) whole.small (stored.congr same) id

/-- A popup is announced on its parent, and whoever follows that attaches it to the view at the root. -/
theorem announce_flat (whole : Whole count shell) (flat : shell.Flat) (hangs : shell.Child id parent) :
    (shell.emit parent (.newPopup id)).Flat := by
  obtain ⟨sound, linked, small⟩ := whole
  rcases announce_cases sound parent id with same | ⟨view, attached, above⟩
  · rwa [same]
  rw [attached]
  refine createPopup_flat linked small flat hangs ?_
  rcases above with ⟨owner, live, rfl⟩ | ⟨popup, record, found, rfl, rfl⟩
  · exact .window (sound.windowOf live)
  · exact flat popup record found

theorem newPopup_flat (whole : Whole count shell) (roled : shell.Roled) (flat : shell.Flat)
    (id parent : SurfaceId) (geometry : Rectangle) :
    (shell.newPopup id parent geometry).shell.Flat := by
  rcases newPopup_cases roled id parent geometry with ⟨fault, refused⟩ | ⟨new, taken⟩
  · rw [refused]
    exact flat
  · have arrives : Move 0 shell (shell.putSurface id { role := .popup parent geometry }) :=
      .surface id _ new
    rw [taken]
    refine announce_flat (whole.moves (.single arrives)) (putSurface_flat flat new _) ?_
    exact ⟨_, putSurface_surface shell id _, rfl⟩

end Arrivals

/-! ### Views that are forgotten -/

section Forgetting

variable {shell : Shell} {count : Nat}

/-- With a view exactly its popups are forgotten. -/
theorem Linked.popups_forgetView (linked : Linked count shell) (view : ViewId) (popup : PopupId) :
    (shell.forgetView view).popups.get? popup =
      (shell.popups.get? popup).filter fun record => record.view ≠ view := by
  have gone : (shell.forgetView view).popups.get? popup =
      if popup ∈ ((shell.views.get? view).map View.popups).getD [] then none
      else shell.popups.get? popup := by
    cases live : shell.views.get? view with
    | none => rw [forgetView_of_none shell live]; rfl
    | some owner => rw [forgetView_of_some shell live, popups_forgetPopups]; rfl
  rw [gone]
  cases found : shell.popups.get? popup with
  | none => exact ite_self none
  | some record =>
    obtain ⟨lister, lists, once⟩ := linked.attached popup record found
    by_cases mine : record.view = view
    · have member : popup ∈ lister.popups := List.count_pos_iff.mp (by omega)
      rw [mine] at lists
      rw [lists, Option.map_some, Option.getD_some, if_pos member, Option.filter_some,
        if_neg (by simpa using mine)]
    · rw [if_neg, Option.filter_some, if_pos (by simpa using mine)]
      intro member
      cases live : shell.views.get? view with
      | none =>
        rw [live] at member
        cases member
      | some owner =>
        rw [live, Option.map_some, Option.getD_some] at member
        obtain ⟨listed, there, yours⟩ := linked.listed view owner popup live member
        obtain rfl := Option.some.inj (found.symm.trans there)
        exact mine yours

theorem forgetView_flat (linked : Linked count shell) (flat : shell.Flat) (view : ViewId) :
    (shell.forgetView view).Flat := by
  intro popup record found
  rw [linked.popups_forgetView, Option.filter_eq_some_iff] at found
  obtain ⟨there, other⟩ := found
  have surfaces := surfaces_of_clientSide (forgetView_clientSide shell view)
  refine (flat popup record there).carry (fun _ => True) trivial ?_ ?_ ?_
  · rintro child parent - ⟨surface, present, hangs⟩
    exact ⟨⟨surface, surfaces ▸ present, hangs⟩, trivial⟩
  · rintro id - ⟨popup, kept, found, wraps, same⟩
    refine ⟨popup, kept, ?_, wraps, same⟩
    rw [linked.popups_forgetView, found, Option.filter_some, if_pos]
    rwa [same]
  · rintro window - ⟨owner, surface, live, rfl, present, toplevel⟩
    have face : (shell.forgetView view).faceOf? record.view = some owner.face := by
      rw [faceOf?_forgetView, if_neg (of_decide_eq_true other), faceOf?, live, Option.map_some]
    obtain ⟨kept, found, same⟩ := Option.map_eq_some_iff.mp face
    have wraps : kept.face.surface = owner.face.surface := congrArg View.surface same
    exact ⟨kept, surface, found, wraps, surfaces ▸ present, toplevel⟩

end Forgetting

end Shell

end WindowShell
