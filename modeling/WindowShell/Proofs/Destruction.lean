/-
**Destroying a surface.**

A surface that is destroyed takes along everything below it, the popups before what they hang on. So a
view is alone when its window goes, and what the desktop is told comes in order: the damage of the popups
first, and then that the view is gone.

* `destroy_sheds`: a root goes with everything below it;
* `Moves.conserves`: the listeners that are not live any more were released;
* `Reached.flat`: popup records are anchored at any time;
* `destroy_fells`: what is left of a shell when a surface is destroyed.
-/

import WindowShell.Proofs.Census
import WindowShell.Proofs.Shedding

namespace WindowShell

namespace Shell

/-! ### A root and what is below it -/

section Roots

variable {shell : Shell} {count : Nat} {root : SurfaceId} {view : ViewId} {record : View}

/-- A root is the only window among what is below it. -/
theorem WindowOf.eq_root (sorted : Lineage.ParentsFirst shell.lineage) {id : SurfaceId}
    (wraps : shell.WindowOf view id) (member : id ∈ shell.subtree root) : id = root :=
  (wraps.eq_of_below ((mem_subtree_iff sorted).mp member)).symm

/-- Every popup of a window is below it. -/
theorem Flat.popup_below (flat : shell.Flat) (sorted : Lineage.ParentsFirst shell.lineage)
    (live : shell.views.get? view = some record) {popup : PopupId}
    {below : Popup} (found : shell.popups.get? popup = some below) (mine : below.view = view) :
    below.surface ∈ shell.subtree record.surface := by
  obtain ⟨window, leads, owner, surface, there, same, -⟩ := (flat popup below found).rootView
  rw [mine, live, Option.some.injEq] at there
  rw [mem_subtree_iff sorted, there, same]
  exact leads

/-- A view has no popups any more when everything below its window is gone. -/
theorem Flat.alone (flat : shell.Flat) (sorted : Lineage.ParentsFirst shell.lineage)
    (sound : shell.Sound) {middle : Shell} (linked : Linked count middle) {front : List SurfaceId}
    (shed : Sheds front shell middle) (live : shell.views.get? view = some record)
    (ends : shell.subtree record.surface = front ++ [record.surface]) {new : View}
    (left : middle.views.get? view = some new) : new.popups = [] := by
  refine List.eq_nil_iff_forall_not_mem.mpr fun popup listed => ?_
  obtain ⟨below, found, mine⟩ := linked.listed view new popup left listed
  rw [shed.popups, Option.filter_eq_some_iff] at found
  obtain ⟨found, stays⟩ := found
  have member := flat.popup_below sorted live found mine
  rw [ends, List.mem_append, List.mem_singleton] at member
  rcases member with early | same
  · exact of_decide_eq_true stays early
  · exact sound.apart live found same.symm

/-- **The root goes last**, and then a view that it has is alone. -/
theorem removeRoot_sheds (sorted : Lineage.ParentsFirst shell.lineage) (flat : shell.Flat)
    (sound : shell.Sound) (inStep : shell.InStep root) {surface : Surface}
    (present : shell.surfaces.get? root = some surface) {front : List SurfaceId}
    (ends : shell.subtree root = front ++ [root]) (kept : root ∉ front) {middle : Shell}
    (next : Whole count middle) (shed : Sheds front shell middle) :
    Sheds [root] middle (middle.removeSurface root) ∧
      (middle.removeSurface root).desktop.events = middle.desktop.events ++
        (shell.damageOf? root).toList.map .fullyDamaged ++ shell.farewell root := by
  cases wraps : shell.viewOf? root with
  | none =>
    obtain ⟨last, more⟩ := removeSurface_sheds next.sound root fun view record found same => by
      obtain ⟨-, old, there, face⟩ := shed.of_view found
      have wrapped : old.face.surface = record.face.surface := congrArg View.surface face
      exact viewOf?_eq_none_iff.mp wraps view old there (wrapped.trans same)
    refine ⟨last, ?_⟩
    rw [more, shed.damageOf?_kept sound next.sound kept, farewell, wraps, List.append_nil]
  | some view =>
    obtain ⟨record, live, rfl⟩ := viewOf?_live wraps
    obtain ⟨new, left, face⟩ := shed.view_kept live kept
    have still : new.surface = record.surface :=
      show new.face.surface = record.face.surface from congrArg View.surface face
    have visible : new.mapped = record.mapped :=
      show new.face.mapped = record.face.mapped from congrArg View.mapped face
    have there : middle.surfaces.get? new.surface = some surface := by
      rw [still, shed.surfaces, if_neg kept, present]
    obtain ⟨last, more⟩ := removeSurface_window next.sound left there
      (visible.trans (inStep view record surface live rfl present).1)
      (flat.alone sorted sound next.linked shed live ends left)
    have parting : middle.farewell new.surface = shell.farewell record.surface := by
      rw [farewell_of_view next.sound left there, farewell_of_view sound live present]
    rw [still] at last more parting
    refine ⟨last, ?_⟩
    rw [more, parting, damageOf?_of_view sound live, Option.toList_none, List.map_nil, List.append_nil]

/-- **A root goes with everything below it**, and the desktop is told in order. -/
theorem destroy_sheds (whole : Whole count shell) (sorted : Lineage.ParentsFirst shell.lineage)
    (flat : shell.Flat) (inStep : shell.InStep root) {surface : Surface}
    (present : shell.surfaces.get? root = some surface) :
    Sheds (shell.subtree root) shell (shell.destroy root).shell ∧
      (shell.destroy root).shell.desktop.events =
        shell.desktop.events ++ ((shell.subtree root).filterMap shell.damageOf?).map .fullyDamaged ++
          shell.farewell root := by
  have sound := whole.sound
  obtain ⟨front, ends⟩ := shell.subtree_ends root
  have distinct := nodup_subtree sorted root
  rw [ends, List.nodup_append] at distinct
  obtain ⟨distinct, -, apart⟩ := distinct
  have kept : root ∉ front := fun member => apart root member root (List.mem_singleton_self root) rfl
  have free : ∀ view record, shell.views.get? view = some record → record.surface ∉ front := by
    intro view record found member
    have inside : record.surface ∈ shell.subtree root := ends ▸ List.mem_append_left _ member
    exact kept ((sound.windowOf found).eq_root sorted inside ▸ member)
  -- everything below the root goes first, and the root itself is left
  obtain ⟨shed, told⟩ := removeAll_sheds sound distinct free
  have next := whole.moves (removeAll_moves sound front)
  obtain ⟨last, more⟩ := removeRoot_sheds sorted flat sound inStep present ends kept next shed
  have destroyed : (shell.destroy root).shell =
      (front.foldl removeSurface shell).removeSurface root := by
    rw [destroy_of_present sorted present, accept, ends, List.foldl_append]
    rfl
  have split : (front ++ [root]).filterMap shell.damageOf? =
      front.filterMap shell.damageOf? ++ (shell.damageOf? root).toList := by
    rw [List.filterMap_append, List.append_cancel_left_eq]
    cases damages : shell.damageOf? root <;> simp [damages]
  rw [destroyed, ends, split, List.map_append]
  refine ⟨shed.trans last, ?_⟩
  rw [more, told]
  simp only [List.append_assoc]

end Roots

/-! ### Listeners -/

section Listeners

variable {births : Nat} {before after : Shell} {ids : List SurfaceId}

/-- Listeners that are live or were released. -/
def accounted (shell : Shell) : Nat := shell.registry.size + shell.registry.released

theorem forgetPopup_accounted (shell : Shell) (id : PopupId) :
    (shell.forgetPopup id).accounted = shell.accounted := by
  unfold forgetPopup
  split
  · rfl
  · exact Registry.releaseAll_conserves _ _

theorem forgetView_accounted (shell : Shell) (id : ViewId) :
    (shell.forgetView id).accounted = shell.accounted := by
  have popups : ∀ (ids : List PopupId) (shell : Shell),
      (ids.foldl forgetPopup shell).accounted = shell.accounted := by
    intro ids
    induction ids with
    | nil => exact fun _ => rfl
    | cons id ids ih => exact fun shell => (ih _).trans (forgetPopup_accounted shell id)
  unfold forgetView
  split
  · rfl
  · exact (popups _ _).trans (Registry.releaseAll_conserves _ _)

/-- A move that creates no record makes no registration. -/
theorem Move.conserves (move : Move births before after) (none : births = 0) :
    after.accounted = before.accounted := by
  cases move with
  | alike same =>
    have registry : after.registry = before.registry := congrArg Frame.registry same
    rw [accounted, registry, accounted]
  | surface | vanish => rfl
  | createView | createPopup => cases none
  | forgetPopup id => exact forgetPopup_accounted before id
  | forgetView id => exact forgetView_accounted before id

/-- **Listeners that are not live any more were released**, as long as no record is created. -/
theorem Moves.conserves (moves : Moves births before after) (none : births = 0) :
    after.accounted = before.accounted := by
  induction moves with
  | refl => rfl
  | tail _ move ih =>
    obtain ⟨first, last⟩ := Nat.add_eq_zero_iff.mp none
    exact (move.conserves last).trans (ih first)

theorem Sheds.views_size (sheds : Sheds ids before after) :
    before.views.size =
      after.views.size + before.views.values.countP fun view => view.surface ∈ ids := by
  refine Table.size_eq_add_countP fun view => ?_
  have faces : (after.faceOf? view).isSome = _ := congrArg Option.isSome (sheds.faces view)
  rw [faceOf?, Option.isSome_map, Option.isSome_filter, faceOf?, Option.any_map] at faces
  exact faces

theorem Sheds.popups_size (sheds : Sheds ids before after) :
    before.popups.size =
      after.popups.size + before.popups.values.countP fun popup => popup.surface ∈ ids := by
  refine Table.size_eq_add_countP fun popup => ?_
  rw [sheds.popups, Option.isSome_filter]

/-- What is released when surfaces go: the listeners of the views and popups on them. -/
theorem Sheds.released (sheds : Sheds ids before after) (sound : before.Sound) (also : after.Sound)
    (conserved : after.accounted = before.accounted) :
    after.registry.released = before.registry.released +
      9 * (before.views.values.countP fun view => view.surface ∈ ids) +
      5 * before.popups.values.countP fun popup => popup.surface ∈ ids := by
  have views := sheds.views_size
  have popups := sheds.popups_size
  have nine : viewSignals.length = 9 := rfl
  have five : popupSignals.length = 5 := rfl
  rw [accounted, accounted, sound.held.size_registry, also.held.size_registry,
    length_dueRegistrations, length_dueRegistrations, nine, five] at conserved
  omega

end Listeners

/-! ### Popup records at any time -/

section Runs

variable {shell : Shell} {count : Nat}

theorem Reached.whole (reached : Reached count shell) (short : count < 2 ^ 32 - 1) :
    Whole count shell :=
  ⟨reached.sound, reached.linked (by omega), by omega⟩

theorem destroy_flat (whole : Whole count shell) (sorted : Lineage.ParentsFirst shell.lineage)
    (flat : shell.Flat) (inStep : ∀ window, shell.InStep window) (root : SurfaceId) :
    (shell.destroy root).shell.Flat := by
  cases present : shell.surfaces.get? root with
  | none =>
    rw [destroy_of_absent present]
    exact flat
  | some surface =>
    obtain ⟨sheds, -⟩ := destroy_sheds whole sorted flat (inStep root) present
    refine sheds.flat flat fun child parent hangs stays member => stays ?_
    rw [mem_subtree_iff sorted] at member ⊢
    exact .head hangs member

/-- Every act leaves popup records anchored. -/
theorem perform_flat (whole : Whole count shell) (roled : shell.Roled)
    (sorted : Lineage.ParentsFirst shell.lineage) (inStep : ∀ window, shell.InStep window)
    (flat : shell.Flat) (act : Act) : (shell.perform act).shell.Flat := by
  by_cases structural : act.Structural
  swap
  · exact flat.congr (perform_frame structural)
  cases act with
  | call view call =>
    cases call with
    | destroy => exact forgetView_flat whole.linked flat view
    | _ => cases structural
  | request request =>
    cases request with
    | newToplevel id => exact newToplevel_flat whole roled flat id
    | newPopup id parent geometry => exact newPopup_flat whole roled flat id parent geometry
    | destroy root => exact destroy_flat whole sorted flat inStep root
    | _ => cases structural

/-- **Popup records are anchored at any time**, in fewer acts than there are identifiers. -/
theorem Reached.flat (reached : Reached count shell) (short : count < 2 ^ 32 - 1) : shell.Flat := by
  induction reached with
  | fresh => exact fun _ _ found => by cases found
  | act act reached ih =>
    exact perform_flat (reached.whole (by omega)) reached.roled reached.parentsFirst
      reached.inStep (ih (by omega)) act

end Runs

/-! ### What is left -/

/-- **What is left when a surface is destroyed.** -/
structure Felled (shell : Shell) (root : SurfaceId) (after : Shell) : Prop where
  /-- A surface goes if a chain of parents leads from it to the root. -/
  gone : ∀ id, shell.Below id root → after.surfaces.get? id = none
  /-- Every other surface is as it was. -/
  kept : ∀ id, ¬ shell.Below id root → after.surfaces.get? id = shell.surfaces.get? id
  /-- No view wraps a surface that went. -/
  views : ∀ id view, after.views.get? id = some view → ¬ shell.Below view.surface root
  /-- No popup record is on a surface that went. -/
  popups : ∀ id popup, after.popups.get? id = some popup → ¬ shell.Below popup.surface root
  /-- Nobody listens to a surface that went. -/
  listeners : ∀ id registration, after.registry.live.get? id = some registration →
    ¬ shell.Below registration.surface root
  /-- The listeners of the view are released, if the root had one, and those of each popup record. -/
  released : ∃ removed : List SurfaceId, removed.Nodup ∧ (∀ id, id ∈ removed ↔ shell.Below id root) ∧
    after.registry.released = shell.registry.released +
      (if (shell.viewOf? root).isSome then 9 else 0) +
      5 * shell.popups.values.countP fun popup => popup.surface ∈ removed
  /-- The desktop is told that the view at the root is damaged, once for each visible surface with a
  popup record, and then that the view of the root goes. -/
  told : ∃ damaged : List (SurfaceId × ViewId), (damaged.map Prod.fst).Nodup ∧
    (∀ id view, (id, view) ∈ damaged ↔
      shell.Below id root ∧ shell.shows id ∧ shell.PopupOn view id) ∧
    (∀ id view, (id, view) ∈ damaged → shell.RootView id view) ∧
    after.desktop.events = shell.desktop.events ++
      damaged.map (fun entry => .fullyDamaged entry.2) ++ shell.farewell root

section Felling

variable {shell : Shell} {count : Nat} {root : SurfaceId}

/-- Only the root of what goes may have had a view. -/
theorem countP_views (sound : shell.Sound) (sorted : Lineage.ParentsFirst shell.lineage)
    (root : SurfaceId) :
    (shell.views.values.countP fun view => view.surface ∈ shell.subtree root) =
      if (shell.viewOf? root).isSome then 1 else 0 := by
  have inside : root ∈ shell.subtree root := (mem_subtree_iff sorted).mpr .refl
  have only : (shell.views.values.countP fun view => view.surface ∈ shell.subtree root) =
      shell.views.values.countP fun view => view.surface = root := by
    refine List.countP_congr fun view member => ?_
    obtain ⟨entry, listed, rfl⟩ := List.mem_map.mp member
    rw [decide_eq_true_eq, decide_eq_true_eq]
    constructor
    · exact (sound.windowOf (Table.get?_eq_some_iff.mpr listed)).eq_root sorted
    · intro same
      rw [same]
      exact inside
  rw [only]
  refine Table.countP_of_unique fun first second value other found there one two => ?_
  exact sound.views_apart found there ((of_decide_eq_true one).trans (of_decide_eq_true two).symm)

/-- The views that are damaged, each with the surface that damages it. -/
theorem exists_damaged (sound : shell.Sound) {ids : List SurfaceId} (distinct : ids.Nodup) :
    ∃ damaged : List (SurfaceId × ViewId), (damaged.map Prod.fst).Nodup ∧
      (∀ id view, (id, view) ∈ damaged ↔ id ∈ ids ∧ shell.shows id ∧ shell.PopupOn view id) ∧
      (ids.filterMap shell.damageOf?).map Event.fullyDamaged =
        damaged.map fun entry => .fullyDamaged entry.2 := by
  refine ⟨ids.filterMap fun id => (shell.damageOf? id).map fun view => (id, view), ?_,
    fun id view => ?_, ?_⟩
  · rw [List.map_filterMap]
    refine distinct.filterMap fun first second id one two => ?_
    simp only [Option.map_map, Option.mem_def, Option.map_eq_some_iff] at one two
    obtain ⟨_, -, rfl⟩ := one
    obtain ⟨_, -, same⟩ := two
    exact same.symm
  · simp only [List.mem_filterMap, Option.map_eq_some_iff, Prod.mk.injEq]
    constructor
    · rintro ⟨other, member, damages, found, rfl, rfl⟩
      exact ⟨member, (damageOf?_eq_some_iff sound).mp found⟩
    · rintro ⟨member, damages⟩
      exact ⟨id, member, view, (damageOf?_eq_some_iff sound).mpr damages, rfl, rfl⟩
  · rw [List.map_filterMap, List.map_filterMap]
    refine List.filterMap_congr fun id member => ?_
    rw [Option.map_map]
    rfl

/-- Nobody listens to a surface that neither a view nor a popup record is on. -/
theorem Sound.unheard (sound : shell.Sound) (gone : SurfaceId → Prop)
    (views : ∀ id view, shell.views.get? id = some view → ¬ gone view.surface)
    (popups : ∀ id popup, shell.popups.get? id = some popup → ¬ gone popup.surface)
    {id : ListenerId} {registration : Registration}
    (live : shell.registry.live.get? id = some registration) : ¬ gone registration.surface := by
  obtain ⟨wrapping, found, heard⟩ := mem_holdings ((sound.held.holders.live _ _).mp live)
  rw [(mem_registrations.mp heard).1]
  cases target : registration.target with
  | view id =>
    rw [target] at found
    obtain ⟨view, there, rfl⟩ := Option.map_eq_some_iff.mp found
    exact views id view there
  | popup id =>
    rw [target] at found
    obtain ⟨popup, there, rfl⟩ := Option.map_eq_some_iff.mp found
    exact popups id popup there

theorem destroy_felled (reached : Reached count shell) (short : count < 2 ^ 32 - 1)
    {surface : Surface} (present : shell.surfaces.get? root = some surface) :
    shell.Felled root (shell.destroy root).shell := by
  have whole := reached.whole short
  have sorted := reached.parentsFirst
  have flat := reached.flat short
  have sound := whole.sound
  have distinct := nodup_subtree sorted root
  have below : ∀ id, id ∈ shell.subtree root ↔ shell.Below id root := fun _ => mem_subtree_iff sorted
  obtain ⟨sheds, events⟩ := destroy_sheds whole sorted flat (reached.inStep root) present
  have moves : Moves 0 shell (shell.destroy root).shell := by
    rw [destroy_of_present sorted present]
    exact removeAll_moves sound _
  have also := moves.sound sound
  have views : ∀ id view, (shell.destroy root).shell.views.get? id = some view →
      ¬ shell.Below view.surface root := by
    intro id view found
    rw [← below]
    exact (sheds.of_view found).1
  have popups : ∀ id popup, (shell.destroy root).shell.popups.get? id = some popup →
      ¬ shell.Below popup.surface root := by
    intro id popup found
    rw [← below]
    rw [sheds.popups, Option.filter_eq_some_iff] at found
    exact of_decide_eq_true found.2
  refine ⟨fun id leads => ?_, fun id apart => ?_, views, popups, fun id registration live => ?_, ?_, ?_⟩
  · rw [sheds.surfaces, if_pos ((below id).mpr leads)]
  · rw [sheds.surfaces, if_neg (mt (below id).mp apart)]
  · exact also.unheard (shell.Below · root) views popups live
  · refine ⟨shell.subtree root, distinct, below, ?_⟩
    rw [sheds.released sound also (moves.conserves rfl), countP_views sound sorted root]
    split <;> rfl
  · obtain ⟨damaged, once, member, same⟩ := exists_damaged sound distinct
    refine ⟨damaged, once, fun id view => ?_, fun id view damages => ?_, ?_⟩
    · rw [member, below]
    · obtain ⟨-, -, popup, record, found, rfl, rfl⟩ := (member id view).mp damages
      exact (flat popup record found).rootView
    · rw [events, same]

/-- **What destroying a surface does.** In fewer acts than there are identifiers, every popup hangs on a
surface that is there, and no surface hangs on itself. So destroying a surface that is there comes to an end,
and no fault comes up on the way down, however much deeper it might have gone. It removes the surface with
everything below it, with the views, popup records and listeners on all of that, and nothing else. -/
theorem destroy_fells (reached : Reached count shell) (short : count < 2 ^ 32 - 1) :
    (∀ child parent, shell.Child child parent → (shell.surfaces.get? parent).isSome) ∧
      (∀ id, ¬ Relation.TransGen shell.Child id id) ∧
      ∀ root, (shell.surfaces.get? root).isSome →
        (∀ depth, shell.surfaces.size ≤ depth → (ShellM.destroy depth root).runOn shell =
          (.ok (), (shell.perform (.request (.destroy root))).shell)) ∧
        (shell.perform (.request (.destroy root))).fault = none ∧
          shell.Felled root (shell.perform (.request (.destroy root))).shell := by
  have sorted := reached.parentsFirst
  refine ⟨fun child parent hangs => ?_, Child.acyclic sorted, fun root there => ?_⟩
  · obtain ⟨surface, present⟩ := hangs.parent_present sorted
    rw [present, Option.isSome_some]
  · obtain ⟨surface, present⟩ := Option.isSome_iff_exists.mp there
    have destroyed := destroy_of_present sorted present
    refine ⟨fun depth deep => ?_, ?_, destroy_felled reached short present⟩
    · rw [runOn_destroy sorted there deep, perform, handle, destroyed, accept]
    · rw [perform, handle, destroyed, accept]

/-- A window with a popup that has a popup of its own, both of them visible, beside another window. -/
def nestedPopups : List Act :=
  [ .request (.newToplevel ⟨1⟩), .request (.newPopup ⟨2⟩ ⟨1⟩ {}), .request (.newPopup ⟨3⟩ ⟨2⟩ {}),
    .request (.newToplevel ⟨4⟩), .request (.commit ⟨2⟩ {}), .request (.ack ⟨2⟩ 1),
    .request (.commit ⟨2⟩ { buffer := .attach { width := 20, height := 20 } }),
    .request (.commit ⟨3⟩ {}), .request (.ack ⟨3⟩ 2),
    .request (.commit ⟨3⟩ { buffer := .attach { width := 10, height := 10 } }) ]

/-- The popups go with the first window, and so do nine listeners and five for each popup. There are four
surfaces, so four levels are enough. -/
theorem destroy_fells_nestedPopups :
    ∃ shell, shell = (fresh { pingOnCreate := false } .empty 0).performAll nestedPopups ∧
      (ShellM.destroy 4 ⟨1⟩).runOn shell = (.ok (), (shell.destroy ⟨1⟩).shell) ∧
      shell.Felled ⟨1⟩ (shell.destroy ⟨1⟩).shell ∧
      (shell.destroy ⟨1⟩).shell.surfaces.keys = [⟨4⟩] ∧
      (shell.destroy ⟨1⟩).shell.registry.released = 19 ∧
      (shell.destroy ⟨1⟩).shell.desktop.events =
        shell.desktop.events ++ [.fullyDamaged ⟨1⟩, .fullyDamaged ⟨1⟩, .destroyed ⟨1⟩] := by
  have reached : Reached 10 ((fresh { pingOnCreate := false } .empty 0).performAll nestedPopups) :=
    (Reached.fresh 0 { pingOnCreate := false } .empty 0).performAll nestedPopups
  obtain ⟨-, -, fells⟩ := destroy_fells reached (by decide)
  obtain ⟨ends, -, felled⟩ := fells ⟨1⟩ (by decide +kernel)
  exact ⟨_, rfl, ends 4 (by decide +kernel), felled, by decide +kernel, by decide +kernel,
    by decide +kernel⟩

end Felling

end Shell

end WindowShell
