/-
**Windows do not interfere.**

A window and the popups that hang on it, however deep, are a tree of surfaces, and every surface is in
exactly one. The view of the window and the records of its popups belong to the tree. So a tree is a closed
region, and whatever a step does to a surface is confined to the tree of this surface: the listeners,
messages and events of other windows have no part in it. A surface that is new joins the tree of its parent,
or its tree is new as well:

* `Rooted`, `tree`: the window that a surface belongs to, and its tree;
* `Reached.exists_root`, `Rooted.unique`: every surface belongs to one window;
* `tree_closed`: a tree is a closed region;
* `Confined`: what it means that a change is confined to a region;
* `windows_do_not_interfere`: **every step is confined to one tree.**
-/

import WindowShell.Proofs.Echoes

namespace WindowShell

namespace Lineage

/-- Every surface hangs, directly or not, on one that hangs on nothing. -/
theorem ParentsFirst.exists_root {lineage : Lineage} (sorted : ParentsFirst lineage) :
    ∀ id ∈ members lineage, ∃ root, Below lineage id root ∧ (root, none) ∈ lineage := by
  induction sorted with
  | nil => exact fun _ member => absurd member List.not_mem_nil
  | @snoc lineage newcomer parent earlier new known ih =>
    have further : ∀ id, (∃ root, Below lineage id root ∧ (root, none) ∈ lineage) →
        ∃ root, Below (lineage ++ [(newcomer, parent)]) id root ∧
          (root, none) ∈ lineage ++ [(newcomer, parent)] := by
      rintro id ⟨root, below, top⟩
      exact ⟨root, Relation.ReflTransGen.mono (fun _ _ hangs => child_snoc.mpr (.inl hangs)) _ _ below,
        List.mem_append_left _ top⟩
    intro id member
    rw [members, List.map_append, List.mem_append] at member
    rcases member with old | same
    · exact further id (ih id old)
    · obtain rfl := List.mem_singleton.mp same
      cases parent with
      | none => exact ⟨_, .refl, List.mem_append_right _ (List.mem_singleton_self _)⟩
      | some above =>
        obtain ⟨root, below, top⟩ := further above (ih above (known above rfl))
        exact ⟨root, .head (child_snoc.mpr (.inr ⟨rfl, rfl⟩)) below, top⟩

end Lineage

namespace Shell

/-- **The root of a surface**: the window that it is, or that it hangs on, directly or not. -/
def Rooted (shell : Shell) (id root : SurfaceId) : Prop :=
  shell.Below id root ∧ ∃ surface, shell.surfaces.get? root = some surface ∧ surface.isToplevel

/-- **The tree of a window**: the window with everything that hangs on it, and its view. -/
def tree (shell : Shell) (root : SurfaceId) : Region where
  surfaces id := shell.Below id root
  views view := shell.WindowOf view root

/-- **A change is confined to a region.** Outside of it every surface, view, popup record and listener is
as before; what is posted is addressed to a surface in it, and what is told names a view in it. -/
structure Confined (region : Region) (before after : Shell) : Prop where
  surfaces : ∀ id, ¬ region.surfaces id → after.surfaces.get? id = before.surfaces.get? id
  /-- Views are as before with all that is recorded of them. -/
  views : ∀ id, ¬ region.views id → after.views.get? id = before.views.get? id
  popups : ∀ id record, ¬ region.views record.view →
    (after.popups.get? id = some record ↔ before.popups.get? id = some record)
  /-- The registrations of views and popup records outside are as before. -/
  listeners : ∀ listener registration,
    before.Houses region.rest registration.target ∨ after.Houses region.rest registration.target →
      (after.registry.live.get? listener = some registration ↔
        before.registry.live.get? listener = some registration)
  posted : ∃ messages, after.outbox = before.outbox ++ messages ∧
    ∀ message ∈ messages, region.surfaces message.surface
  told : ∃ events, after.desktop.events = before.desktop.events ++ events ∧
    ∀ event ∈ events, region.views event.view

/-! ### Trees -/

section Trees

variable {shell before after : Shell} {region : Region} {id root other parent : SurfaceId}

/-- A window is a root of its own. -/
theorem rooted_of_window (there : (shell.surfaces.get? root).any Surface.isToplevel) :
    shell.Rooted root root :=
  ⟨.refl, (Option.any_eq_true ..).mp there⟩

theorem Rooted.eq_of_below (rooted : shell.Rooted id root) (below : shell.Below root other) :
    other = root := by
  obtain ⟨-, surface, present, toplevel⟩ := rooted
  exact below.eq_of_toplevel present toplevel

/-- **A surface belongs to one window only.** -/
theorem Rooted.unique (one : shell.Rooted id root) (two : shell.Rooted id other) : root = other := by
  rcases Below.total one.1 two.1 with onward | back
  · exact (one.eq_of_below onward).symm
  · exact two.eq_of_below back

/-- A surface has the same root as its parent. -/
theorem Rooted.above (rooted : shell.Rooted id root) (hangs : shell.Child id parent) :
    shell.Rooted parent root := by
  obtain ⟨below, surface, present, toplevel⟩ := rooted
  rcases Relation.ReflTransGen.cases_head below with rfl | ⟨above, also, rest⟩
  · exact absurd hangs (top_of_toplevel present toplevel)
  · obtain rfl := hangs.unique also
    exact ⟨rest, surface, present, toplevel⟩

/-- The view at the root of a surface wraps the window that the surface belongs to. -/
theorem Rooted.windowOf {view : ViewId} (rooted : shell.Rooted id root)
    (leads : shell.RootView id view) : shell.WindowOf view root := by
  obtain ⟨window, below, owner, surface, live, mine, present, toplevel⟩ := leads
  obtain rfl := rooted.unique ⟨below, surface, present, toplevel⟩
  exact ⟨owner, surface, live, mine, present, toplevel⟩

/-- A surface that has a root is there. -/
theorem Rooted.present (rooted : shell.Rooted id root) : (shell.surfaces.get? id).isSome := by
  obtain ⟨below, surface, present, -⟩ := rooted
  exact below.present (by rw [present, Option.isSome_some])

/-- **Every surface belongs to a window.** -/
theorem Reached.exists_root {count : Nat} (reached : Reached count shell)
    (present : (shell.surfaces.get? id).isSome) : ∃ root, shell.Rooted id root := by
  obtain ⟨root, below, top⟩ := reached.parentsFirst.exists_root id (mem_lineage_iff.mpr present)
  obtain ⟨entry, listed, same⟩ := List.mem_map.mp top
  obtain ⟨rfl, alone⟩ := Prod.mk.inj same
  have found := Table.get?_eq_some_iff.mpr listed
  refine ⟨entry.1, below_lineage.mp below, entry.2, found, ?_⟩
  have roled := reached.roled _ _ found
  unfold Surface.isToplevel
  cases role : entry.2.role with
  | unset => exact absurd role roled
  | toplevel => rfl
  | popup =>
    rw [role] at alone
    cases alone

/-- **A tree is a closed region**, where popup records are anchored. -/
theorem tree_closed (sound : shell.Sound) (flat : shell.Flat) (rooted : shell.Rooted id root) :
    Closed (shell.tree root) shell where
  views view record live := by
    have wraps := sound.windowOf live
    constructor
    · intro (below : shell.Below record.surface root)
      obtain rfl := wraps.eq_of_below below
      exact wraps
    · intro also
      obtain rfl := wraps.surface_eq also
      exact .refl
  popups popup record found := by
    have leads := (flat popup record found).rootView
    constructor
    · exact fun below => Rooted.windowOf ⟨below, rooted.2⟩ leads
    · intro also
      obtain ⟨window, below, wraps⟩ := leads
      obtain rfl := wraps.surface_eq also
      exact below
  children child parent hangs :=
    ⟨fun below => (Rooted.above ⟨below, rooted.2⟩ hangs).1, fun below => .head hangs below⟩

end Trees

/-! ### Changes that are confined -/

section Confinement

variable {shell before after : Shell} {region : Region} {messages : List Message} {events : List Event}

/-- What touches only a region is confined to it: what listens outside is as before, where the views and
popup records outside are. -/
theorem Touches.confined (touches : Touches region messages events before after) (held : before.Held)
    (also : after.Held) : Confined region before after where
  surfaces id outside := (touches.rest.surfaces id outside).symm
  views id outside := (touches.rest.views id outside).symm
  popups id record outside := (touches.rest.popups id record outside).symm
  listeners listener registration outside := by
    rcases outside with old | new
    · exact (touches.rest.registrations held also old).symm
    · exact touches.rest.symm.registrations also held new
  posted := ⟨messages, touches.outbox, touches.addressed⟩
  told := ⟨events, touches.log, touches.named⟩

theorem Confined.refl (region : Region) (held : shell.Held) : Confined region shell shell :=
  (Touches.refl region shell).confined held held

end Confinement

/-! ### Steps -/

section Steps

variable {shell : Shell} {count : Nat} {id root parent : SurfaceId} {step : Step}

/-- **A step that creates nothing is confined to the tree of its surface.** -/
theorem apply_confined (whole : Whole count shell) (sorted : Lineage.ParentsFirst shell.lineage)
    (flat : shell.Flat) (keeps : ¬ step.Creates)
    (rooted : shell.Rooted step.surface root) :
    Confined (shell.tree root) shell (shell.apply step).shell := by
  obtain ⟨messages, events, within⟩ :=
    apply_within whole sorted (tree_closed whole.sound flat rooted) keeps rooted.1
  exact within.confined whole.sound.held (within.moves.sound whole.sound).held

/-- A call on a surface that nothing follows finds no view. -/
theorem callOf_unheard (alone : shell.Unfollowed id) (call : WindowCall) :
    (shell.callOf id call).shell = shell := by
  rw [callOf, alone.viewOf?, accept]

/-- A step that creates nothing needs a surface. -/
theorem apply_of_absent (sound : shell.Sound) (keeps : ¬ step.Creates)
    (absent : shell.surfaces.get? step.surface = none) : (shell.apply step).shell = shell := by
  cases step with
  | newToplevel | newPopup => exact absurd trivial keeps
  | setMinSize id | setMaxSize id =>
    replace absent : shell.surfaces.get? id = none := absent
    rw [apply, handle, changeSurface_of_absent absent, reject]
  | ack id serial =>
    replace absent : shell.surfaces.get? id = none := absent
    cases serial with
    | none => rw [apply, ackNewest, absent, reject]
    | some serial => rw [apply, handle, changeSurface_of_absent absent, reject]
  | commit id =>
    replace absent : shell.surfaces.get? id = none := absent
    rw [apply, handle, commit_of_absent absent, reject]
  | requestMove id | requestResize id | requestMaximize id | requestFullscreen id =>
    replace absent : shell.surfaces.get? id = none := absent
    rw [apply, handle, forward_of_absent absent, reject]
  | destroy id =>
    replace absent : shell.surfaces.get? id = none := absent
    rw [apply, handle, destroy_of_absent absent, reject]
  | activate | resize | moveResize | maximize | fullscreen | close | destroyView =>
    exact callOf_unheard (sound.unfollowed absent) _

theorem ping_touches (shell : Shell) (inside : region.surfaces id) :
    ∃ messages, Touches region messages [] shell (shell.ping id) := by
  unfold ping
  split
  · refine ⟨_, (post_within shell _ fun message member => ?_).toTouches⟩
    rwa [List.mem_singleton.mp member]
  · exact ⟨[], .refl region shell⟩

/-- A view that is created belongs to the region of its window. -/
theorem createView_touches (shell : Shell) (id : SurfaceId)
    (mine : ∀ view record, (shell.createView id).views.get? view = some record → record.surface = id →
      region.views view) :
    ∃ events, Touches region [] events shell (shell.createView id) := by
  have client := createView_clientSide shell id
  have surfaces := surfaces_of_clientSide client
  have outbox := (outbox_of_clientSide client).trans (List.append_nil _).symm
  have popups : (shell.createView id).popups = shell.popups := by
    unfold createView
    split
    · split <;> rfl
    · rfl
  rcases shell.createView_told id with ⟨views, -, log⟩ | ⟨⟨listeners, views⟩, -, log⟩
  · refine ⟨[], ⟨fun _ _ => ?_, fun _ _ => ?_, fun _ _ _ => ?_⟩, outbox,
      log.trans (List.append_nil _).symm, nofun, nofun⟩
    · rw [surfaces]
    · rw [views]
    · rw [popups]
  · have new : region.views shell.nextView :=
      mine shell.nextView _ (by rw [views, Table.get?_insert, if_pos rfl]) rfl
    refine ⟨_, ⟨fun _ _ => ?_, fun view outside => ?_, fun _ _ _ => ?_⟩, outbox, log, nofun,
      fun event member => ?_⟩
    · rw [surfaces]
    · rw [views, Table.get?_insert, if_neg]
      rintro rfl
      exact outside new
    · rw [popups]
    · rwa [List.mem_singleton.mp member]

/-- A popup that is created belongs to the region of its view. -/
theorem createPopup_touches {view : ViewId} (unused : shell.popups.get? shell.nextPopup = none)
    (mine : ∀ popup record, (shell.createPopup view id).popups.get? popup = some record →
      record.surface = id → region.views record.view) :
    Touches region [] [] shell (shell.createPopup view id) := by
  rcases createPopup_cases shell view id with same | ⟨-, created⟩
  · rw [same]
    exact .refl region shell
  rw [created] at mine ⊢
  have inside : region.views view :=
    mine shell.nextPopup _ (by rw [withPopup, Table.get?_insert, if_pos rfl]) rfl
  refine .silent ⟨fun _ _ => rfl, fun other outside => ?_, fun popup record outside => ?_⟩ rfl rfl
  · rw [withPopup, Table.get?_modify, if_neg]
    rintro rfl
    exact outside inside
  · rw [withPopup, Table.get?_insert]
    split
    · next same =>
      rw [same, unused, Option.some.injEq]
      constructor
      · intro absent
        cases absent
      · rintro rfl
        exact absurd inside outside
    · exact .rfl

/-- **A new window is a tree of its own.** -/
theorem newToplevel_confined (sound : shell.Sound) (roled : shell.Roled)
    (rooted : (shell.newToplevel id).shell.Rooted id root) :
    Confined ((shell.newToplevel id).shell.tree root) shell (shell.newToplevel id).shell := by
  obtain ⟨_, -, moves⟩ := newToplevel_moves sound roled id
  have also := moves.sound sound
  rcases newToplevel_cases roled id with ⟨fault, refused⟩ | ⟨new, taken⟩
  · rw [refused]
    exact .refl _ sound.held
  rw [taken, accept] at rooted also ⊢
  generalize after : ((shell.putSurface id { role := .toplevel {} }).ping id).createView id = arrived
    at rooted also ⊢
  have there : arrived.surfaces.get? id = some { role := .toplevel {} } := by
    rw [← after, surfaces_of_clientSide (createView_clientSide _ _), ping_surfaces]
    exact putSurface_surface shell id _
  obtain rfl : root = id := rooted.unique ⟨.refl, _, there, rfl⟩
  have inside : (arrived.tree root).surfaces root := .refl
  have stored := putSurface_touches shell { role := .toplevel {} } inside
  obtain ⟨messages, pinged⟩ := ping_touches (shell.putSurface root { role := .toplevel {} }) inside
  have mine : ∀ view record, arrived.views.get? view = some record → record.surface = root →
      (arrived.tree root).views view := fun view record live wraps =>
    ⟨record, _, live, wraps, there, rfl⟩
  rw [← after] at mine
  obtain ⟨events, created⟩ := createView_touches _ root mine
  rw [after] at created
  exact (stored.trans (pinged.trans created)).confined sound.held also.held

/-- **A new popup joins the tree of its parent.** -/
theorem newPopup_confined (whole : Whole count shell) (roled : shell.Roled) (flat : shell.Flat)
    {geometry : Rectangle} (rooted : (shell.newPopup id parent geometry).shell.Rooted id root) :
    Confined ((shell.newPopup id parent geometry).shell.tree root) shell
      (shell.newPopup id parent geometry).shell := by
  obtain ⟨_, -, moves⟩ := newPopup_moves whole.sound roled id parent geometry
  have also := moves.sound whole.sound
  have anchored := newPopup_flat whole roled flat id parent geometry
  rcases newPopup_cases roled id parent geometry with ⟨fault, refused⟩ | ⟨new, taken⟩
  · rw [refused]
    exact .refl _ whole.sound.held
  rw [taken, accept] at rooted also anchored ⊢
  generalize after : (shell.putSurface id { role := .popup parent geometry }).emit parent (.newPopup id) =
    arrived at rooted also anchored ⊢
  have stored : Touches (arrived.tree root) [] [] shell _ :=
    putSurface_touches shell { role := .popup parent geometry } rooted.1
  have arrives : Move 0 shell (shell.putSurface id { role := .popup parent geometry }) :=
    .surface id _ new
  have next := whole.moves (.single arrives)
  suffices touches : Touches (arrived.tree root) [] [] shell arrived from
    touches.confined whole.sound.held also.held
  rcases announce_cases next.sound parent id with same | ⟨view, attached, -⟩
  · rw [same] at after
    rw [after] at stored
    exact stored
  -- the record of the new popup is anchored to the window at the root
  have mine : ∀ popup record, arrived.popups.get? popup = some record → record.surface = id →
      (arrived.tree root).views record.view := by
    rintro popup record found rfl
    exact rooted.windowOf (anchored popup record found).rootView
  rw [attached] at after
  rw [← after] at mine
  have created := createPopup_touches (next.linked.nextPopup_unused next.small) mine
  rw [after] at created
  exact stored.trans created

/-- A step that creates something is refused on a surface that is there, and one that is not refused
brings its surface. -/
theorem apply_creates (roled : shell.Roled) (creates : step.Creates) :
    (shell.apply step).shell = shell ∨
      shell.surfaces.get? step.surface = none ∧
        ((shell.apply step).shell.surfaces.get? step.surface).isSome := by
  cases step with
  | newToplevel id =>
    rw [apply, handle, Step.surface]
    rcases newToplevel_cases roled id with ⟨fault, refused⟩ | ⟨new, taken⟩
    · exact .inl (by rw [refused, reject])
    · refine .inr ⟨new, ?_⟩
      rw [taken, accept, surfaces_of_clientSide (createView_clientSide _ _), ping_surfaces,
        putSurface_surface, Option.isSome_some]
  | newPopup id parent geometry =>
    rw [apply, handle, Step.surface]
    rcases newPopup_cases roled id parent geometry with ⟨fault, refused⟩ | ⟨new, taken⟩
    · exact .inl (by rw [refused, reject])
    · refine .inr ⟨new, ?_⟩
      rw [taken, accept, emit_surfaces, putSurface_surface, Option.isSome_some]
  | _ => cases creates

/-- **Windows do not interfere.** In fewer acts than there are identifiers, every surface belongs to one
window, and a step on a surface is confined to the tree of that window. A step that brings a surface is
confined to the tree that the surface is in then, and one that neither finds its surface nor brings it does
nothing. -/
theorem windows_do_not_interfere (reached : Reached count shell) (short : count < 2 ^ 32 - 1)
    (step : Step) :
    (∀ id, (shell.surfaces.get? id).isSome → ∃! root, shell.Rooted id root) ∧
      (∀ root, shell.Rooted step.surface root →
        Confined (shell.tree root) shell (shell.apply step).shell) ∧
      (shell.surfaces.get? step.surface = none →
        (∀ root, (shell.apply step).shell.Rooted step.surface root →
          Confined ((shell.apply step).shell.tree root) shell (shell.apply step).shell) ∧
        ((shell.apply step).shell.surfaces.get? step.surface = none →
          (shell.apply step).shell = shell)) := by
  have whole := reached.whole short
  have flat := reached.flat short
  refine ⟨fun id present => ?_, fun root rooted => ?_, fun absent => ⟨fun root rooted => ?_, ?_⟩⟩
  · obtain ⟨root, rooted⟩ := reached.exists_root present
    exact ⟨root, rooted, fun other also => also.unique rooted⟩
  · by_cases creates : step.Creates
    · rcases apply_creates reached.roled creates with same | ⟨absent, -⟩
      · rw [same]
        exact .refl _ whole.sound.held
      · have present := rooted.present
        rw [absent] at present
        cases present
    · exact apply_confined whole reached.parentsFirst flat creates rooted
  · by_cases creates : step.Creates
    · cases step with
      | newToplevel id => exact newToplevel_confined whole.sound reached.roled rooted
      | newPopup id parent geometry => exact newPopup_confined whole reached.roled flat rooted
      | _ => cases creates
    · have present := rooted.present
      rw [apply_of_absent whole.sound creates absent, absent] at present
      cases present
  · intro left
    by_cases creates : step.Creates
    · rcases apply_creates reached.roled creates with same | ⟨-, there⟩
      · exact same
      · rw [left] at there
        cases there
    · exact apply_of_absent whole.sound creates absent

/-- The first window loses a popup with the popup below it, or gets another popup, and the other window
has no part in it. -/
theorem windows_do_not_interfere_nestedPopups :
    ∃ shell, shell = (fresh { pingOnCreate := false } .empty 0).performAll nestedPopups ∧
      shell.Rooted ⟨2⟩ ⟨1⟩ ∧
      Confined (shell.tree ⟨1⟩) shell (shell.apply (.destroy ⟨2⟩)).shell ∧
      (shell.apply (.destroy ⟨2⟩)).shell.surfaces.keys = [⟨1⟩, ⟨4⟩] ∧
      (shell.apply (.newPopup ⟨5⟩ ⟨2⟩ {})).shell.Rooted ⟨5⟩ ⟨1⟩ ∧
      Confined ((shell.apply (.newPopup ⟨5⟩ ⟨2⟩ {})).shell.tree ⟨1⟩) shell
        (shell.apply (.newPopup ⟨5⟩ ⟨2⟩ {})).shell := by
  have hangs : ∀ {shell : Shell} {child parent : SurfaceId},
      ((shell.surfaces.get? child).bind fun surface => surface.role.parent?) = some parent →
        shell.Child child parent := Option.bind_eq_some_iff.mp
  have reached : Reached 10 ((fresh { pingOnCreate := false } .empty 0).performAll nestedPopups) :=
    (Reached.fresh 0 { pingOnCreate := false } .empty 0).performAll nestedPopups
  generalize made : (fresh { pingOnCreate := false } .empty 0).performAll nestedPopups = shell at reached
  have rooted : shell.Rooted ⟨2⟩ ⟨1⟩ := by
    rw [← made]
    exact ⟨.single (hangs (by decide +kernel)), (rooted_of_window (by decide +kernel)).2⟩
  have joined : (shell.apply (.newPopup ⟨5⟩ ⟨2⟩ {})).shell.Rooted ⟨5⟩ ⟨1⟩ := by
    rw [← made]
    exact ⟨.head (b := ⟨2⟩) (hangs (by decide +kernel)) (.single (hangs (by decide +kernel))),
      (rooted_of_window (by decide +kernel)).2⟩
  obtain ⟨-, stays, -⟩ := windows_do_not_interfere reached (by decide) (.destroy ⟨2⟩)
  obtain ⟨-, -, comes⟩ := windows_do_not_interfere reached (by decide) (.newPopup ⟨5⟩ ⟨2⟩ {})
  refine ⟨shell, rfl, rooted, stays ⟨1⟩ rooted, ?_, joined, (comes ?_).1 ⟨1⟩ joined⟩
  · rw [← made]
    decide +kernel
  · rw [← made]
    decide +kernel

end Steps

end Shell

end WindowShell
