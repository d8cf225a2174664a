/-
**What a step does to twins.**

A step that creates nothing starts at a surface. If two shells are twins in a region with that surface, the
step is answered alike in both, and they are twins afterwards. A configure needs the serial counter, which
all windows share; so the two must count alike, or the step takes no serial:

* `Numbers`: from one shell to another a serial is sent;
* `Twins.configure`, `Twins.call`: what window management asks for;
* `Twins.subtree`: the same surfaces are below a surface of the region, and they go in the same order;
* `Twins.removeSurface`, `Twins.destroy`: surfaces go;
* `Twins.apply`: **every step that creates nothing is echoed.**
-/

import Mathlib.Data.List.Perm.Subperm
import Mathlib.Data.Prod.Basic
import WindowShell.Proofs.Mirrors

namespace WindowShell

/-! ### Orders -/

namespace Table

variable {κ α : Type} [DecidableEq κ] {first second : Table κ α}

/-- Entries are known from their keys and the values of these. -/
theorem map_entries (table : Table κ α) :
    table.entries.map (Prod.map id some) = table.keys.map fun key => (key, table.get? key) := by
  rw [keys, List.map_map]
  refine List.map_congr_left fun entry member => ?_
  simp only [Prod.map, Function.comp_apply, id_eq]
  rw [get?_eq_some_iff.mpr member]

theorem keys_of_order {order : List κ} (distinct : order.Nodup) (one : first.keys.Sublist order)
    (two : second.keys.Sublist order) (same : ∀ key, first.get? key = second.get? key) :
    first.keys = second.keys := by
  refine (List.Nodup.perm_iff_eq_of_sublist distinct one two).mp
    ((List.perm_ext_iff_of_nodup first.keys_nodup second.keys_nodup).mpr fun key => ?_)
  rw [← get?_isSome_iff, ← get?_isSome_iff, same key]

/-- **Tables are equal** if their keys come in one order, and have the same values. -/
theorem eq_of_order {order : List κ} (distinct : order.Nodup) (one : first.keys.Sublist order)
    (two : second.keys.Sublist order) (same : ∀ key, first.get? key = second.get? key) :
    first = second := by
  have plain : Function.Injective (Prod.map id some : κ × α → κ × Option α) :=
    Function.Injective.prodMap Function.injective_id fun _ _ => Option.some.inj
  refine ext (List.map_injective_iff.mpr plain ?_)
  rw [map_entries, map_entries, keys_of_order distinct one two same]
  exact List.map_congr_left fun key _ => by rw [same key]

end Table

namespace Shell

/-- **From one shell to another a serial is sent**: a message is posted that carries one. -/
def Numbers (before after : Shell) : Prop :=
  ∃ messages, after.outbox = before.outbox ++ messages ∧ ∃ message ∈ messages, message.serial?.isSome

/-- **Two answers are alike**: both requests are rejected for the same reason or carried out, with the
same effect in a region. -/
structure Echoes (region : Region) (shell twin : Shell) (reply other : Reply) : Prop where
  fault : reply.fault = other.fault
  mirrors : Mirrors region shell twin reply.shell other.shell

theorem numbers_iff {before after : Shell} {messages : List Message}
    (outbox : after.outbox = before.outbox ++ messages) :
    Numbers before after ↔ ∃ message ∈ messages, message.serial?.isSome := by
  constructor
  · rintro ⟨others, also, carries⟩
    obtain rfl := List.append_cancel_left (also.symm.trans outbox)
    exact carries
  · exact fun carries => ⟨messages, outbox, carries⟩

theorem Numbers.of_clientSide {before middle after : Shell} (numbers : Numbers before middle)
    (same : after.clientSide = middle.clientSide) : Numbers before after := by
  rwa [Numbers, outbox_of_clientSide same]

theorem configure_of_idle {shell : Shell} {id : SurfaceId} {surface : Surface} {force : Bool}
    (idle : surface.schedule shell.serials force = none) :
    shell.configure id surface force = (shell.putSurface id surface, none) := by
  rw [configure, idle]

theorem configure_of_due {shell : Shell} {id : SurfaceId} {surface told : Surface} {force : Bool}
    {configure : Configure} {serials : SerialCounter}
    (due : surface.schedule shell.serials force = some (configure, told, serials)) :
    shell.configure id surface force =
      (({ shell.putSurface id told with serials } : Shell).send [.configure id configure],
        some configure.serial) := by
  rw [Shell.configure, due]

namespace Twins

variable {region : Region} {shell twin : Shell} {id : SurfaceId} {view : ViewId} {record : View}
  {surface : Surface} {toplevel : Toplevel}

/-! ### What window management asks for -/

/-- **A configure is sent from both shells or from neither**, if they count alike or none is due. -/
theorem configure (twins : Twins region shell twin) {old : Surface}
    (present : shell.surfaces.get? id = some old) (same : surface.role.bare = old.role.bare)
    (inside : region.surfaces id) {force : Bool}
    (counts : shell.serials = twin.serials ∨ ¬ Numbers shell (shell.configure id surface force).1) :
    (shell.configure id surface force).2 = (twin.configure id surface force).2 ∧
      Mirrors region shell twin (shell.configure id surface force).1
        (twin.configure id surface force).1 := by
  cases due : surface.schedule shell.serials force with
  | none =>
    have also : surface.schedule twin.serials force = none :=
      Surface.schedule_eq_none_iff.mpr (Surface.schedule_eq_none_iff.mp due)
    rw [configure_of_idle due, configure_of_idle also]
    exact ⟨rfl, twins.putSurface present same inside⟩
  | some sent =>
    obtain ⟨configure, told, serials⟩ := sent
    rw [configure_of_due due] at counts
    have counted : shell.serials = twin.serials := counts.resolve_right fun silent =>
      silent ⟨[_], rfl, _, List.mem_singleton_self _, rfl⟩
    rw [configure_of_due due, configure_of_due (counted ▸ due)]
    have role : told.role.bare = old.role.bare := by
      obtain ⟨-, -, rfl, -⟩ := Surface.schedule_some due
      exact same
    refine ⟨rfl, .onward (twins.putSurface present role inside) twins fun twins =>
      twins.issue counted serials fun message member => ?_⟩
    rwa [List.mem_singleton.mp member]

/-- Acting on a window of the region. -/
theorem onWindow (twins : Twins region shell twin) (inside : region.views view)
    {act also : View → Surface → Toplevel → Shell}
    (counts : shell.serials = twin.serials ∨ ¬ Numbers shell (shell.onWindow view act))
    (acts : ∀ record surface toplevel, shell.window? view = some (record, surface, toplevel) →
      (shell.serials = twin.serials ∨ ¬ Numbers shell (act record surface toplevel)) →
        Mirrors region shell twin (act record surface toplevel) (also record surface toplevel)) :
    Mirrors region shell twin (shell.onWindow view act) (twin.onWindow view also) := by
  rw [Shell.onWindow] at counts
  rw [Shell.onWindow, Shell.onWindow, ← twins.window? inside]
  cases window : shell.window? view with
  | none => exact .refl twins.alike
  | some found =>
    rw [window] at counts
    exact acts _ _ _ window counts

theorem propose (twins : Twins region shell twin) (inside : region.views view)
    (window : shell.window? view = some (record, surface, toplevel))
    {change : ToplevelState → ToplevelState}
    (counts : shell.serials = twin.serials ∨ ¬ Numbers shell (shell.propose record surface change).1) :
    (shell.propose record surface change).2 = (twin.propose record surface change).2 ∧
      Mirrors region shell twin (shell.propose record surface change).1
        (twin.propose record surface change).1 := by
  obtain ⟨live, present, -⟩ := window?_eq_some.mp window
  exact twins.configure present (Role.bare_mapToplevel _ _)
    ((twins.closed.views view record live).mpr inside) counts

theorem moveResize (twins : Twins region shell twin) (inside : region.views view)
    (window : shell.window? view = some (record, surface, toplevel)) (bounds : SizeBounds)
    (position : Point) (size : Extent)
    (counts : shell.serials = twin.serials ∨
      ¬ Numbers shell (shell.moveResize view record surface bounds position size)) :
    Mirrors region shell twin (shell.moveResize view record surface bounds position size)
      (twin.moveResize view record surface bounds position size) := by
  simp only [moveResize_eq] at counts ⊢
  -- placing the view posts nothing
  have asked := counts.imp_right fun silent numbers =>
    silent (Numbers.of_clientSide numbers (land_clientSide _ _ _))
  obtain ⟨serial, proposed⟩ := twins.propose inside window asked
  rw [← serial]
  refine .onward ?_ twins fun twins => twins.land inside _
  refine .onward proposed twins fun twins => ?_
  exact twins.changeView (fun _ => rfl) inside

/-- The popups of a view of the region are asked to go away, in the same order. -/
theorem dismissals (twins : Twins region shell twin) (inside : region.views view)
    (live : shell.views.get? view = some record) :
    shell.dismissals record = twin.dismissals record ∧
      ∀ message ∈ shell.dismissals record, region.surfaces message.surface := by
  obtain ⟨_, linked⟩ := twins.linked
  constructor
  · refine List.filterMap_congr fun popup member => ?_
    obtain ⟨below, found, rfl⟩ := linked.listed view record popup live member
    have there := (twins.alike.popups popup below inside).mp found
    have within := (twins.closed.popups popup below found).mpr inside
    simp only [found, there, Option.bind_eq_bind, Option.bind_some,
      twins.alike.surfaces below.surface within]
  · intro message member
    obtain ⟨popup, listed, asked⟩ := List.mem_filterMap.mp member
    obtain ⟨below, found, rfl⟩ := linked.listed view record popup live listed
    simp only [found, Option.bind_eq_bind, Option.bind_some, Option.bind_eq_some_iff] at asked
    obtain ⟨surface, -, closes⟩ := asked
    rw [closeMessage?_surface closes]
    exact (twins.closed.popups popup below found).mpr inside

theorem closeWindow (twins : Twins region shell twin) (inside : region.views view)
    (live : shell.views.get? view = some record) (surface : Surface) :
    Mirrors region shell twin (shell.closeWindow record surface) (twin.closeWindow record surface) := by
  obtain ⟨same, addressed⟩ := twins.dismissals inside live
  rw [Shell.closeWindow, Shell.closeWindow, ← same]
  refine twins.send fun message member => ?_
  rcases List.mem_append.mp member with dismissed | closed
  · exact addressed message dismissed
  · rw [closeMessage?_surface (Option.mem_toList.mp closed)]
    exact (twins.closed.views view record live).mpr inside

/-- **A call on a view of the region is mirrored.** -/
theorem call (twins : Twins region shell twin) (inside : region.views view) {call : WindowCall}
    (counts : shell.serials = twin.serials ∨ ¬ Numbers shell (shell.call view call)) :
    Mirrors region shell twin (shell.call view call) (twin.call view call) := by
  cases call with
  | destroy => exact twins.forgetView inside
  | close =>
    exact twins.onWindow inside counts fun _ surface _ window _ =>
      twins.closeWindow inside (window?_eq_some.mp window).1 surface
  | moveResize position size =>
    exact twins.onWindow inside counts fun _ _ _ window counts =>
      twins.moveResize inside window _ position size counts
  | activate | resize | maximize | fullscreen =>
    exact twins.onWindow inside counts fun _ _ _ window counts => (twins.propose inside window counts).2

/-! ### Surfaces that go -/

theorem hidden (twins : Twins region shell twin) (present : shell.surfaces.get? id = some surface)
    (inside : region.surfaces id) :
    Mirrors region shell twin (shell.hidden id surface) (twin.hidden id surface) := by
  have stored : Mirrors region shell twin (shell.putSurface id surface.hide)
      (twin.putSurface id surface.hide) := twins.putSurface present rfl inside
  unfold Shell.hidden
  split
  · exact .onward stored twins fun twins => twins.emit inside nofun
  · exact stored

theorem removeSurface (twins : Twins region shell twin) (inside : region.surfaces id) :
    Mirrors region shell twin (shell.removeSurface id) (twin.removeSurface id) := by
  have same := twins.alike.surfaces id inside
  cases present : shell.surfaces.get? id with
  | none =>
    have there := same.symm.trans present
    simp only [Shell.removeSurface, present, there]
    exact .refl twins.alike
  | some surface =>
    rw [removeSurface_of_present present, removeSurface_of_present (same.symm.trans present)]
    have hides := twins.hidden present inside
    refine .onward ?_ twins fun left => left.vanish ?_ inside
    · exact .onward hides twins fun twins => twins.emit inside (by simp)
    · exact (destroyed_moves (hides.twins twins).sound id).2

theorem removeAll (twins : Twins region shell twin) {ids : List SurfaceId}
    (inside : ∀ id ∈ ids, region.surfaces id) :
    Mirrors region shell twin (ids.foldl Shell.removeSurface shell)
      (ids.foldl Shell.removeSurface twin) := by
  induction ids generalizing shell twin with
  | nil => exact .refl twins.alike
  | cons id ids ih =>
    obtain ⟨first, rest⟩ := List.forall_mem_cons.mp inside
    exact .onward (twins.removeSurface first) twins fun twins => ih twins rest

/-- **The same surfaces hang on a surface of the region.** -/
theorem child_iff (twins : Twins region shell twin) (inside : region.surfaces id) {child : SurfaceId} :
    shell.Child child id ↔ twin.Child child id := by
  constructor
  · intro hangs
    have mine := (twins.closed.children child id hangs).mpr inside
    rwa [Child, twins.alike.surfaces child mine] at hangs
  · intro hangs
    have mine := (twins.shut.children child id hangs).mpr inside
    rwa [Child, ← twins.alike.surfaces child mine] at hangs

/-- The walk from a surface of the region stays in the region, and is the same in both. -/
theorem walk (twins : Twins region shell twin) (inside : region.surfaces id) (depth : Nat) :
    shell.walk depth id = twin.walk depth id ∧ ∀ below ∈ shell.walk depth id, region.surfaces below := by
  induction depth generalizing id with
  | zero => exact ⟨rfl, fun below member => List.mem_singleton.mp member ▸ inside⟩
  | succ depth ih =>
    have popups : shell.children id = twin.children id := children_congr fun _ => twins.child_iff inside
    have mine : ∀ child ∈ shell.children id, region.surfaces child := fun child member =>
      (twins.closed.children child id (mem_children_iff.mp member)).mpr inside
    constructor
    · rw [Shell.walk, Shell.walk, ← popups]
      exact congrArg (· ++ [id]) (List.flatMap_congr fun child member => (ih (mine child member)).1)
    · intro below member
      rw [Shell.walk, List.mem_append, List.mem_flatMap, List.mem_singleton] at member
      rcases member with ⟨child, member, leads⟩ | rfl
      · exact (ih (mine child member)).2 below leads
      · exact inside

/-- **The same surfaces are below a surface of the region**, and they go in the same order. -/
theorem subtree (twins : Twins region shell twin) (sorted : Lineage.ParentsFirst shell.lineage)
    (also : Lineage.ParentsFirst twin.lineage) (present : shell.surfaces.get? id = some surface)
    (inside : region.surfaces id) :
    shell.subtree id = twin.subtree id ∧ ∀ below ∈ shell.subtree id, region.surfaces below := by
  have there : (shell.surfaces.get? id).isSome := by rw [present, Option.isSome_some]
  have deep := walk_of_le (shallow sorted there) (Nat.le_add_right _ twin.surfaces.size)
  have deep' := walk_of_le (shallow also (twins.alike.surfaces id inside ▸ there))
    (Nat.le_add_left _ shell.surfaces.size)
  obtain ⟨same, within⟩ := twins.walk inside (shell.surfaces.size + twin.surfaces.size)
  rw [deep] at same within
  exact ⟨same.trans deep', within⟩

theorem destroy (twins : Twins region shell twin) (sorted : Lineage.ParentsFirst shell.lineage)
    (also : Lineage.ParentsFirst twin.lineage) (inside : region.surfaces id) :
    Echoes region shell twin (shell.destroy id) (twin.destroy id) := by
  have same := twins.alike.surfaces id inside
  cases present : shell.surfaces.get? id with
  | none =>
    rw [destroy_of_absent present, destroy_of_absent (same.symm.trans present)]
    exact ⟨rfl, .refl twins.alike⟩
  | some surface =>
    obtain ⟨equal, below⟩ := twins.subtree sorted also present inside
    rw [destroy_of_present sorted present, destroy_of_present also (same.symm.trans present), ← equal]
    exact ⟨rfl, twins.removeAll below⟩

/-! ### The other requests -/

theorem changeSurface (twins : Twins region shell twin) (inside : region.surfaces id)
    {act : SurfaceM Unit} (careful : act.Careful)
    (keeps : ∀ before after : Surface, before.obey act = .ok after → after.role.bare = before.role.bare) :
    Echoes region shell twin (shell.changeSurface id act) (twin.changeSurface id act) := by
  have same := twins.alike.surfaces id inside
  cases present : shell.surfaces.get? id with
  | none =>
    rw [changeSurface_of_absent present, changeSurface_of_absent (same.symm.trans present)]
    exact ⟨rfl, .refl twins.alike⟩
  | some surface =>
    have there := same.symm.trans present
    cases done : surface.obey act with
    | error cause =>
      rw [changeSurface_of_error careful present done, changeSurface_of_error careful there done]
      exact ⟨rfl, .refl twins.alike⟩
    | ok stored =>
      rw [changeSurface_of_ok careful present done, changeSurface_of_ok careful there done]
      exact ⟨rfl, twins.putSurface present (keeps surface stored done) inside⟩

theorem forward (twins : Twins region shell twin) (inside : region.surfaces id) {signal : Signal}
    (opens : ∀ surface, signal ≠ .newPopup surface) :
    Echoes region shell twin (shell.forward id signal) (twin.forward id signal) := by
  have same := twins.alike.surfaces id inside
  cases present : shell.surfaces.get? id with
  | none =>
    rw [forward_of_absent present, forward_of_absent (same.symm.trans present)]
    exact ⟨rfl, .refl twins.alike⟩
  | some surface =>
    rw [forward_of_present present, forward_of_present (same.symm.trans present)]
    split
    · exact ⟨rfl, twins.emit inside opens⟩
    · exact ⟨rfl, .refl twins.alike⟩

theorem followed (twins : Twins region shell twin) {old : Surface}
    (present : shell.surfaces.get? id = some old) (same : surface.role.bare = old.role.bare)
    (inside : region.surfaces id) {effect : CommitEffect}
    (counts : shell.serials = twin.serials ∨ ¬ Numbers shell (shell.followed id surface effect)) :
    Mirrors region shell twin (shell.followed id surface effect) (twin.followed id surface effect) := by
  have stored := twins.putSurface present same inside
  cases effect with
  | settled => exact stored
  | needsConfigure => exact (twins.configure present same inside counts).2
  | mapped | unmapped => exact .onward stored twins fun twins => twins.emit inside nofun

theorem commit (twins : Twins region shell twin) (inside : region.surfaces id) (commit : Commit)
    (counts : shell.serials = twin.serials ∨ ¬ Numbers shell (shell.commit id commit).shell) :
    Echoes region shell twin (shell.commit id commit) (twin.commit id commit) := by
  have same := twins.alike.surfaces id inside
  cases present : shell.surfaces.get? id with
  | none =>
    rw [commit_of_absent present, commit_of_absent (same.symm.trans present)]
    exact ⟨rfl, .refl twins.alike⟩
  | some old =>
    have there := same.symm.trans present
    cases done : old.commit commit with
    | error cause =>
      rw [commit_of_error present done, commit_of_error there done]
      exact ⟨rfl, .refl twins.alike⟩
    | ok result =>
      obtain ⟨surface, effect⟩ := result
      rw [commit_of_ok present done] at counts ⊢
      rw [commit_of_ok there done]
      have asked := counts.imp_right fun silent numbers =>
        silent (Numbers.of_clientSide numbers (emit_clientSide _ _ _))
      refine ⟨rfl, .onward ?_ twins fun twins => twins.emit inside (by simp)⟩
      exact twins.followed present (Surface.bare_commit done) inside asked

/-! ### Steps -/

theorem ack (twins : Twins region shell twin) (inside : region.surfaces id) (serial : UInt32) :
    Echoes region shell twin (shell.handle (.ack id serial)) (twin.handle (.ack id serial)) :=
  twins.changeSurface inside (SurfaceM.ack_careful serial) fun _ _ done =>
    congrArg Role.bare (Surface.role_ack done)

theorem ackNewest (twins : Twins region shell twin) (inside : region.surfaces id) :
    Echoes region shell twin (shell.ackNewest id) (twin.ackNewest id) := by
  rw [Shell.ackNewest, Shell.ackNewest, ← twins.alike.surfaces id inside]
  split
  · exact ⟨rfl, .refl twins.alike⟩
  · split
    · exact ⟨rfl, .refl twins.alike⟩
    · exact twins.ack inside _

theorem callOf (twins : Twins region shell twin) (inside : region.surfaces id) {call : WindowCall}
    (counts : shell.serials = twin.serials ∨ ¬ Numbers shell (shell.callOf id call).shell) :
    Echoes region shell twin (shell.callOf id call) (twin.callOf id call) := by
  rw [Shell.callOf] at counts
  rw [Shell.callOf, Shell.callOf, ← twins.viewOf? inside]
  cases found : shell.viewOf? id with
  | none => exact ⟨rfl, .refl twins.alike⟩
  | some view =>
    rw [found] at counts
    obtain ⟨record, live, rfl⟩ := viewOf?_live found
    exact ⟨rfl, twins.call ((twins.closed.views view record live).mp inside) counts⟩

end Twins

end Shell

/-- A step that makes a surface a window or a popup. -/
def Step.Creates : Step → Prop
  | newToplevel _ | newPopup _ _ _ => True
  | _ => False

/-- **Every step that creates nothing is echoed** between shells that are twins where it starts. -/
theorem Shell.Twins.apply {region : Region} {shell twin : Shell} (twins : Twins region shell twin)
    (sorted : Lineage.ParentsFirst shell.lineage) (also : Lineage.ParentsFirst twin.lineage) {step : Step}
    (keeps : ¬ step.Creates) (inside : region.surfaces step.surface)
    (counts : shell.serials = twin.serials ∨ ¬ Numbers shell (shell.apply step).shell) :
    Echoes region shell twin (shell.apply step) (twin.apply step) := by
  cases step with
  | newToplevel | newPopup => exact absurd trivial keeps
  | setMinSize | setMaxSize =>
    exact twins.changeSurface inside (by simp) fun _ _ => Surface.bare_changeToplevel
  | ack surface serial =>
    cases serial with
    | none => exact twins.ackNewest inside
    | some serial => exact twins.ack inside serial
  | commit => exact twins.commit inside _ counts
  | requestMove | requestResize | requestMaximize | requestFullscreen =>
    exact twins.forward inside nofun
  | destroy => exact twins.destroy sorted also inside
  | activate | resize | moveResize | maximize | fullscreen | close | destroyView =>
    exact twins.callOf inside counts

/-- **A step that creates nothing stays within a closed region** that its surface is in: the shell is its
own twin there. -/
theorem Shell.apply_within {region : Region} {shell : Shell} {count : Nat} (whole : Whole count shell)
    (sorted : Lineage.ParentsFirst shell.lineage) (closed : Closed region shell) {step : Step}
    (keeps : ¬ step.Creates) (inside : region.surfaces step.surface) :
    ∃ messages events, Within region messages events shell (shell.apply step).shell := by
  obtain ⟨-, mirrors⟩ := (Twins.refl whole closed).apply sorted sorted keeps inside (.inl rfl)
  obtain ⟨messages, events, within, -⟩ := mirrors.within
  exact ⟨messages, events, within⟩

end WindowShell
