/-
**Closing a window.**

When a window is asked to close, all its popups are dismissed first, each of them once and the outer ones
before the inner ones. Popups are numbered as they are opened, and a popup is opened on a surface that is
there already. So the numbers rise along the list of a view, and they rise from a popup to those that are
nested in it. Nobody is passed over, because what is listed is there, and so is the surface it is on.

* `Counts`, `Moves.counts`: a popup that is new has a number that was never used before;
* `Ordered`, `Nested`: the numbers rise along a list, and from a parent to a child;
* `Reached.ordered`, `Reached.nested`: they do so at any time;
* `OpenedBefore`, `openedBefore_of_lt`: the numbers tell which popup was there first;
* `close_dismisses_every_popup`: who is addressed when a window is asked to close, and in which order.
-/

import Mathlib.Data.List.Induction
import WindowShell.Proofs.Destruction

namespace WindowShell

namespace Shell

/-! ### Numbers -/

/-- **How the numbers of popups move on**, where so many records are created. -/
structure Counts (births : Nat) (before after : Shell) : Prop where
  /-- No number is taken back. -/
  rises : before.lastPopup.toNat ≤ after.lastPopup.toNat
  /-- Each number is for a record. -/
  few : after.lastPopup.toNat ≤ before.lastPopup.toNat + births
  /-- A popup that was not there before has a number that was not given out before. -/
  newer : ∀ popup, (after.popups.get? popup).isSome →
    (before.popups.get? popup).isSome ∨ before.lastPopup.toNat < popup.val.toNat

section Numbers

variable {count births more : Nat} {before middle after : Shell}

/-- Where no number is given out, no popup is new. -/
theorem Counts.of_kept (same : after.lastPopup = before.lastPopup)
    (kept : ∀ popup, (after.popups.get? popup).isSome → (before.popups.get? popup).isSome) :
    Counts births before after :=
  ⟨Nat.le_of_eq (by rw [same]), by rw [same]; omega, fun popup found => .inl (kept popup found)⟩

theorem Counts.trans (first : Counts births before middle) (second : Counts more middle after) :
    Counts (births + more) before after := by
  refine ⟨Nat.le_trans first.rises second.rises, ?_, fun popup found => ?_⟩
  · have one := first.few
    have two := second.few
    omega
  · rcases second.newer popup found with there | late
    · exact first.newer popup there
    · exact .inr (Nat.lt_of_le_of_lt first.rises late)

theorem Counts.of_frame (same : after.frame = before.frame) : Counts births before after := by
  refine .of_kept (lastPopup_of_frame same) fun popup found => ?_
  obtain ⟨record, there⟩ := Option.isSome_iff_exists.mp found
  obtain ⟨old, here, -⟩ := popup_of_frame same there
  rw [here, Option.isSome_some]

theorem Move.counts (move : Move births before after) (linked : Linked count before)
    (small : count + births < 2 ^ 32) : Counts births before after := by
  cases move with
  | alike same => exact .of_frame same
  | surface | vanish => exact .of_kept rfl fun _ found => found
  | createView surface =>
    rcases createView_cases before surface with same | ⟨created, -⟩
    · exact .of_frame same
    · rw [created]
      exact .of_kept rfl fun _ found => found
  | createPopup view surface =>
    rcases createPopup_cases before view surface with same | ⟨-, created⟩
    · rw [same]
      exact .of_kept rfl fun _ found => found
    · have next := toNat_succ linked.popupCount small
      have last : (before.withPopup view surface).lastPopup.toNat = before.lastPopup.toNat + 1 := next
      rw [created]
      refine ⟨by omega, by omega, fun popup found => ?_⟩
      rw [withPopup, Table.get?_insert] at found
      split at found
      · next new =>
        have number : popup.val.toNat = before.lastPopup.toNat + 1 := by rw [new, nextPopup, next]
        exact .inr (by omega)
      · exact .inl found
  | forgetPopup id =>
    refine .of_kept ?_ fun popup found => ?_
    · rw [Shell.forgetPopup]
      split <;> rfl
    · rw [popups_forgetPopup] at found
      split at found
      · cases found
      · exact found
  | forgetView id =>
    refine .of_kept ?_ fun popup found => ?_
    · cases live : before.views.get? id with
      | none => rw [forgetView_of_none before live]
      | some view =>
        rw [forgetView_of_some before live]
        exact (forgetPopups_orphans view.popups (linked.orphans live)).2.2
    · rw [linked.popups_forgetView, Option.isSome_filter] at found
      exact Option.isSome_of_any found

/-- **A popup that is new has a number that was never used before**, as long as the count does not wrap
around. -/
theorem Moves.counts (moves : Moves births before after) (linked : Linked count before)
    (small : count + births < 2 ^ 32) : Counts births before after := by
  induction moves with
  | refl => exact .of_kept rfl fun _ found => found
  | @tail births more _ _ _ moves move ih =>
    have next := linked.moves moves (by omega)
    exact (ih linked (by omega)).trans (move.counts next (by omega))

end Numbers

/-! ### Numbers along a list -/

/-- The numbers of popups rise along the list of each view. -/
def Ordered (shell : Shell) : Prop :=
  ∀ id view, shell.views.get? id = some view →
    view.popups.Pairwise fun first second => first.val.toNat < second.val.toNat

section Lists

variable {count births : Nat} {before after : Shell}

theorem Ordered.congr (ordered : before.Ordered) (same : after.frame = before.frame) :
    after.Ordered := by
  intro id view found
  obtain ⟨old, there, core⟩ := view_of_frame same found
  rw [← View.popups_of_core core]
  exact ordered id old there

/-- **Every move keeps the numbers rising**: what is listed anew has the highest number so far. -/
theorem Ordered.move (ordered : before.Ordered) (linked : Linked count before)
    (move : Move births before after) (small : count + births < 2 ^ 32) : after.Ordered := by
  cases move with
  | alike same => exact ordered.congr same
  | surface | vanish => exact ordered
  | createView surface =>
    rcases createView_cases before surface with same | ⟨created, -⟩
    · exact ordered.congr same
    · rw [created]
      intro id view found
      rw [withView, Table.get?_insert] at found
      split at found
      · obtain rfl := Option.some.inj found
        exact .nil
      · exact ordered id view found
  | createPopup view surface =>
    rcases createPopup_cases before view surface with same | ⟨-, created⟩
    · rwa [same]
    · rw [created]
      intro id owner found
      rw [withPopup, Table.get?_modify] at found
      split at found
      · obtain ⟨old, there, rfl⟩ := Option.map_eq_some_iff.mp found
        refine List.pairwise_append.mpr ⟨ordered _ old there, List.pairwise_singleton _ _, ?_⟩
        intro popup listed new same
        obtain ⟨record, present, -⟩ := linked.listed _ old popup there listed
        have below := linked.popupNumbers popup record present
        rw [List.mem_singleton.mp same, nextPopup, toNat_succ linked.popupCount small]
        omega
      · exact ordered id owner found
  | forgetPopup popup =>
    intro id view found
    cases there : before.popups.get? popup with
    | none =>
      rw [forgetPopup_of_none before there] at found
      exact ordered id view found
    | some record =>
      rw [forgetPopup_of_some before there] at found
      simp only [Table.get?_modify] at found
      split at found
      · obtain ⟨old, listed, rfl⟩ := Option.map_eq_some_iff.mp found
        exact (ordered _ old listed).filter _
      · exact ordered id view found
  | forgetView view =>
    intro id other found
    rw [linked.views_forgetView] at found
    split at found
    · cases found
    · exact ordered id other found

theorem Ordered.moves (ordered : before.Ordered) (linked : Linked count before)
    (moves : Moves births before after) (small : count + births < 2 ^ 32) : after.Ordered := by
  induction moves with
  | refl => exact ordered
  | @tail births more _ _ _ moves move ih =>
    exact (ih ordered linked (by omega)).move (linked.moves moves (by omega)) move (by omega)

/-- **The numbers rise along every list at any time**, in fewer acts than there are identifiers. -/
theorem Reached.ordered {shell : Shell} (reached : Reached count shell) (short : count < 2 ^ 32) :
    shell.Ordered := by
  induction reached with
  | fresh => exact fun _ _ found => by cases found
  | act act reached ih =>
    obtain ⟨births, few, moves⟩ := perform_moves reached.sound reached.roled act
    exact (ih (by omega)).moves (reached.linked (by omega)) moves (by omega)

end Lists

/-! ### Numbers from parents to children -/

/-- A popup on a popup has the higher number of the two. -/
def Nested (shell : Shell) : Prop :=
  ∀ inner popup outer record, shell.popups.get? inner = some popup →
    shell.popups.get? outer = some record → shell.Child popup.surface record.surface →
      outer.val.toNat < inner.val.toNat

section Nesting

variable {count : Nat} {shell before after : Shell} {id parent : SurfaceId}

/-- Where nothing is opened, nothing is out of order. -/
theorem Nested.fewer (nested : before.Nested)
    (children : ∀ child parent, after.Child child parent → before.Child child parent)
    (popups : ∀ popup record, after.popups.get? popup = some record →
      ∃ old, before.popups.get? popup = some old ∧ old.surface = record.surface) : after.Nested := by
  intro inner popup outer record found there hangs
  obtain ⟨young, one, mine⟩ := popups inner popup found
  obtain ⟨old, two, yours⟩ := popups outer record there
  exact nested inner young outer old one two (mine ▸ yours ▸ children _ _ hangs)

theorem Nested.congr (nested : before.Nested) (same : after.frame = before.frame) : after.Nested := by
  refine nested.fewer (fun _ _ hangs => hangs.congr same.symm) fun popup record found => ?_
  obtain ⟨old, there, core⟩ := popup_of_frame same found
  exact ⟨old, there, Popup.surface_of_core core⟩

/-- A new popup has the highest number so far, and it has no popups of its own. -/
theorem Nested.createPopup (nested : shell.Nested) (linked : Linked count shell)
    (small : count + 1 < 2 ^ 32) (childless : ∀ child, ¬ shell.Child child id) (view : ViewId) :
    (shell.createPopup view id).Nested := by
  rcases createPopup_cases shell view id with same | ⟨-, created⟩
  · rwa [same]
  have next : shell.nextPopup.val.toNat = shell.lastPopup.toNat + 1 :=
    toNat_succ linked.popupCount small
  rw [created]
  intro inner popup outer record found there hangs
  rw [withPopup, Table.get?_insert] at found there
  split at there
  · obtain rfl := Option.some.inj there
    exact absurd hangs (childless _)
  · have below := linked.popupNumbers outer record there
    split at found
    · next new =>
      rw [new]
      omega
    · exact nested inner popup outer record found there hangs

theorem newToplevel_nested (roled : shell.Roled) (nested : shell.Nested) (id : SurfaceId) :
    (shell.newToplevel id).shell.Nested := by
  rcases newToplevel_cases roled id with ⟨fault, refused⟩ | ⟨new, taken⟩
  · rw [refused]
    exact nested
  · rw [taken, accept]
    refine nested.fewer (fun child parent => ?_) fun popup record found => ?_
    · rintro ⟨surface, found, hangs⟩
      rw [surfaces_of_clientSide (createView_clientSide _ _), ping_surfaces, putSurface,
        Table.get?_insert] at found
      split at found
      · obtain rfl := Option.some.inj found
        cases hangs
      · exact ⟨surface, found, hangs⟩
    · have pinged := ping_frame (shell.putSurface id { role := .toplevel {} }) id
      rcases createView_cases ((shell.putSurface id { role := .toplevel {} }).ping id) id with
        same | ⟨created, -⟩
      · obtain ⟨old, there, core⟩ := popup_of_frame (same.trans pinged) found
        exact ⟨old, there, Popup.surface_of_core core⟩
      · rw [created] at found
        obtain ⟨old, there, core⟩ := popup_of_frame pinged found
        exact ⟨old, there, Popup.surface_of_core core⟩

/-- A popup is opened on what is there already, so whatever is on that has a lower number. -/
theorem newPopup_nested (whole : Whole count shell) (roled : shell.Roled)
    (sorted : Lineage.ParentsFirst shell.lineage) (nested : shell.Nested) (id parent : SurfaceId)
    (geometry : Rectangle) : (shell.newPopup id parent geometry).shell.Nested := by
  rcases newPopup_cases roled id parent geometry with ⟨fault, refused⟩ | ⟨new, taken⟩
  · rw [refused]
    exact nested
  have arrives : Move 0 shell (shell.putSurface id { role := .popup parent geometry }) :=
    .surface id _ new
  obtain ⟨sound, linked, small⟩ := whole.moves (.single arrives)
  have children : ∀ {child above}, (shell.putSurface id { role := .popup parent geometry }).Child
      child above → child ≠ id → shell.Child child above := by
    rintro child above ⟨surface, found, hangs⟩ other
    rw [putSurface, Table.get?_insert, if_neg other] at found
    exact ⟨surface, found, hangs⟩
  have apart : parent ≠ id := by
    have known := newPopup_known (congrArg Reply.fault taken)
    rintro rfl
    exact Table.get?_eq_none_iff.mp new known
  -- nobody hangs on a surface that has only just arrived
  have childless : ∀ child, ¬ (shell.putSurface id { role := .popup parent geometry }).Child
      child id := by
    intro child hangs
    by_cases same : child = id
    · obtain ⟨surface, found, above⟩ := hangs
      rw [same, putSurface, Table.get?_insert, if_pos rfl] at found
      obtain rfl := Option.some.inj found
      exact apart (Option.some.inj above)
    · obtain ⟨surface, present⟩ := (children hangs same).parent_present sorted
      rw [new] at present
      cases present
  have stored : (shell.putSurface id { role := .popup parent geometry }).Nested := by
    intro inner popup outer record found there hangs
    refine nested inner popup outer record found there (children hangs fun same => ?_)
    obtain ⟨surface, present, -⟩ := whole.sound.popup_fits found
    rw [same, new] at present
    cases present
  rw [taken, accept]
  rcases announce_cases sound parent id with same | ⟨view, attached, -⟩
  · rwa [same]
  · rw [attached]
    exact stored.createPopup linked small childless view

theorem destroy_nested (whole : Whole count shell) (sorted : Lineage.ParentsFirst shell.lineage)
    (flat : shell.Flat) (inStep : ∀ window, shell.InStep window) (nested : shell.Nested)
    (root : SurfaceId) : (shell.destroy root).shell.Nested := by
  cases present : shell.surfaces.get? root with
  | none =>
    rw [destroy_of_absent present]
    exact nested
  | some surface =>
    obtain ⟨sheds, -⟩ := destroy_sheds whole sorted flat (inStep root) present
    refine nested.fewer (fun child parent => ?_) fun popup record found => ⟨record, ?_, rfl⟩
    · rintro ⟨surface, found, hangs⟩
      rw [sheds.surfaces] at found
      split at found
      · cases found
      · exact ⟨surface, found, hangs⟩
    · rw [sheds.popups, Option.filter_eq_some_iff] at found
      exact found.1

theorem forgetView_nested (linked : Linked count shell) (nested : shell.Nested) (view : ViewId) :
    (shell.forgetView view).Nested := by
  have surfaces := surfaces_of_clientSide (forgetView_clientSide shell view)
  refine nested.fewer (fun child parent => ?_) fun popup record found => ⟨record, ?_, rfl⟩
  · rintro ⟨surface, found, hangs⟩
    exact ⟨surface, surfaces ▸ found, hangs⟩
  · rw [linked.popups_forgetView, Option.filter_eq_some_iff] at found
    exact found.1

/-- Every act leaves the numbers rising from parents to children. -/
theorem perform_nested (whole : Whole count shell) (roled : shell.Roled)
    (sorted : Lineage.ParentsFirst shell.lineage) (flat : shell.Flat)
    (inStep : ∀ window, shell.InStep window) (nested : shell.Nested) (act : Act) :
    (shell.perform act).shell.Nested := by
  by_cases structural : act.Structural
  swap
  · exact nested.congr (perform_frame structural)
  cases act with
  | call view call =>
    cases call with
    | destroy => exact forgetView_nested whole.linked nested view
    | _ => cases structural
  | request request =>
    cases request with
    | newToplevel id => exact newToplevel_nested roled nested id
    | newPopup id parent geometry => exact newPopup_nested whole roled sorted nested id parent geometry
    | destroy root => exact destroy_nested whole sorted flat inStep nested root
    | _ => cases structural

/-- **The numbers rise from parents to children at any time**, in fewer acts than there are
identifiers. -/
theorem Reached.nested (reached : Reached count shell) (short : count < 2 ^ 32 - 1) :
    shell.Nested := by
  induction reached with
  | fresh => exact fun _ _ _ _ found => by cases found
  | act act reached ih =>
    exact perform_nested (reached.whole (by omega)) reached.roled reached.parentsFirst
      (reached.flat (by omega)) reached.inStep (ih (by omega)) act

/-- So they rise along every chain, because no popup on the way is without a record. -/
theorem Nested.lt_of_below (nested : shell.Nested) (flat : shell.Flat) (sound : shell.Sound)
    {outer : PopupId} {record : Popup} (there : shell.popups.get? outer = some record)
    (below : shell.Below id record.surface) (apart : id ≠ record.surface) :
    ∀ inner popup, shell.popups.get? inner = some popup → popup.surface = id →
      outer.val.toNat < inner.val.toNat := by
  induction below using Relation.ReflTransGen.head_induction_on with
  | refl => exact absurd rfl apart
  | @head id above hangs rest ih =>
    rintro inner popup found rfl
    cases flat inner popup found with
    | window wraps =>
      obtain ⟨_, surface, -, -, present, toplevel⟩ := wraps
      exact absurd hangs (top_of_toplevel present toplevel)
    | popup onto _ anchored =>
      obtain rfl := hangs.unique onto
      cases anchored with
      | window wraps =>
        have same := wraps.eq_of_below rest
        obtain ⟨owner, surface, live, mine, -⟩ := wraps
        exact absurd (mine.trans same.symm) (sound.apart live there)
      | popup _ recorded _ =>
        obtain ⟨middle, other, between, on, -⟩ := recorded
        have lower := nested inner popup middle other found between (on ▸ hangs)
        by_cases last : above = record.surface
        · obtain rfl := sound.popups_apart between there (on.trans last)
          exact lower
        · exact Nat.lt_trans (ih last middle other between on) lower

end Nesting

/-! ### Which popup was there first -/

/-- At some point of a run one popup was there, and until then the other had never been there. -/
def OpenedBefore (start : Shell) (acts : List Act) (first second : PopupId) : Prop :=
  ∃ early, early <+: acts ∧ ((start.performAll early).popups.get? first).isSome ∧
    ∀ sooner, sooner <+: early → (start.performAll sooner).popups.get? second = none

section Opening

variable {start : Shell} {acts : List Act} {popup first second : PopupId}

theorem counts_of_prefix (begins : Reached 0 start) {sooner early : List Act}
    (before : sooner <+: early) (short : early.length < 2 ^ 32 - 1) :
    ∃ births, Counts births (start.performAll sooner) (start.performAll early) := by
  obtain ⟨rest, rfl⟩ := before
  induction rest using List.reverseRecOn with
  | nil => exact ⟨0, by rw [List.append_nil]; exact .of_kept rfl fun _ found => found⟩
  | append_singleton rest act ih =>
    rw [← List.append_assoc, List.length_append, List.length_singleton] at short
    have reached := begins.performAll (sooner ++ rest)
    obtain ⟨births, counts⟩ := ih (by omega)
    obtain ⟨more, few, moves⟩ := perform_moves reached.sound reached.roled act
    refine ⟨births + more, ?_⟩
    rw [← List.append_assoc, performAll_append, performAll_cons, performAll_nil]
    exact counts.trans (moves.counts (reached.linked (by omega)) (by omega))

/-- When a popup was opened, no higher number had been given out. -/
theorem exists_opened (begins : Reached 0 start) (short : acts.length < 2 ^ 32 - 1)
    (found : ((start.performAll acts).popups.get? popup).isSome) :
    ∃ early, early <+: acts ∧ ((start.performAll early).popups.get? popup).isSome ∧
      (start.performAll early).lastPopup.toNat ≤ popup.val.toNat := by
  induction acts using List.reverseRecOn with
  | nil => cases begins; cases found
  | append_singleton acts act ih =>
    rw [List.length_append, List.length_singleton] at short
    have reached := begins.performAll acts
    obtain ⟨births, few, moves⟩ := perform_moves reached.sound reached.roled act
    have counts := moves.counts (reached.linked (by omega)) (by omega)
    have after : start.performAll (acts ++ [act]) = ((start.performAll acts).perform act).shell := by
      rw [performAll_append, performAll_cons, performAll_nil]
    rcases counts.newer popup (after ▸ found) with there | new
    · obtain ⟨early, before, here, numbered⟩ := ih (by omega) there
      exact ⟨early, before.trans (List.prefix_append acts [act]), here, numbered⟩
    · refine ⟨acts ++ [act], List.prefix_rfl, found, ?_⟩
      have last := counts.few
      rw [after]
      omega

/-- **The numbers tell which popup was there first.** -/
theorem openedBefore_of_lt (begins : Reached 0 start) (short : acts.length < 2 ^ 32 - 1)
    (found : ((start.performAll acts).popups.get? first).isSome)
    (lower : first.val.toNat < second.val.toNat) : OpenedBefore start acts first second := by
  obtain ⟨early, before, there, numbered⟩ := exists_opened begins short found
  refine ⟨early, before, there, fun sooner earlier => ?_⟩
  have few := before.length_le
  have fewer := earlier.length_le
  obtain ⟨births, counts⟩ := counts_of_prefix begins earlier (by omega)
  cases present : (start.performAll sooner).popups.get? second with
  | none => rfl
  | some record =>
    have reached := begins.performAll sooner
    have known := (reached.linked (by omega)).popupNumbers second record present
    have rises := counts.rises
    omega

end Opening

/-! ### Closing -/

/-- **What it does to ask a window to close**, after a run in which a view is live. The surfaces are those
of its popups. -/
structure Dismisses (start : Shell) (acts : List Act) (view : ViewId) (record : View)
    (surfaces : List SurfaceId) : Prop where
  /-- One message goes to each surface, one more to the window, and nothing else happens. -/
  sent : (start.performAll acts).perform (.call view .close) =
    ((start.performAll acts).send (surfaces.map .popupDone ++ [.close record.surface])).accept
  /-- They are the surfaces of the popups that the view lists, in this order, and none is missing. -/
  listed : record.popups.map (fun popup =>
    ((start.performAll acts).popups.get? popup).map Popup.surface) = surfaces.map some
  /-- No surface is addressed twice. -/
  once : surfaces.Nodup
  /-- The popups were opened in this order. -/
  inOrder : record.popups.Pairwise (OpenedBefore start acts)
  /-- No surface is below one that comes later. -/
  outerFirst : surfaces.Pairwise fun earlier later => ¬ (start.performAll acts).Below earlier later
  /-- They are there, and they are popups. -/
  alive : ∀ id ∈ surfaces, ∃ surface,
    (start.performAll acts).surfaces.get? id = some surface ∧ surface.isPopup
  /-- They are the surfaces with a popup record from which a chain of parents leads to the window. -/
  exactly : ∀ id, id ∈ surfaces ↔ (start.performAll acts).Below id record.surface ∧
    ∃ popup below, (start.performAll acts).popups.get? popup = some below ∧ below.surface = id

section Closing

variable {count : Nat} {shell : Shell} {view : ViewId} {record : View}

/-- The surfaces of the popups that a view lists. -/
def popupSurfaces (shell : Shell) (record : View) : List SurfaceId :=
  record.popups.filterMap fun popup => (shell.popups.get? popup).map Popup.surface

theorem mem_popupSurfaces {id : SurfaceId} : id ∈ shell.popupSurfaces record ↔
    ∃ popup ∈ record.popups, ∃ below, shell.popups.get? popup = some below ∧ below.surface = id := by
  simp only [popupSurfaces, List.mem_filterMap, Option.map_eq_some_iff]

theorem map_some_filterMap {α β : Type} {pick : α → Option β} {items : List α}
    (all : ∀ item ∈ items, (pick item).isSome) :
    (items.filterMap pick).map some = items.map pick := by
  induction items with
  | nil => rfl
  | cons item items ih =>
    obtain ⟨picked, same⟩ := Option.isSome_iff_exists.mp (all item List.mem_cons_self)
    rw [List.filterMap_cons_some same, List.map_cons, List.map_cons, same,
      ih fun other member => all other (List.mem_cons_of_mem item member)]

theorem closeMessage?_of_popup {surface : Surface} (popup : surface.isPopup) (id : SurfaceId) :
    surface.closeMessage? id = some (.popupDone id) := by
  unfold Surface.isPopup Role.parent? at popup
  unfold Surface.closeMessage?
  split at popup
  · next role => rw [role]
  · cases popup

/-- **No popup is passed over**: what is listed is there, and so is its surface. -/
theorem dismissals_eq (linked : Linked count shell) (sound : shell.Sound)
    (live : shell.views.get? view = some record) :
    shell.dismissals record = (shell.popupSurfaces record).map .popupDone := by
  rw [dismissals, popupSurfaces, List.map_filterMap]
  refine List.filterMap_congr fun popup listed => ?_
  obtain ⟨below, found, -⟩ := linked.listed view record popup live listed
  obtain ⟨surface, present, fits⟩ := sound.popup_fits found
  simp only [found, present, closeMessage?_of_popup fits, Option.map_some, Option.bind_eq_bind,
    Option.bind_some]

/-- The popups that a view lists are those below its window. -/
theorem mem_popupSurfaces_iff_below (linked : Linked count shell) (sound : shell.Sound)
    (flat : shell.Flat) (live : shell.views.get? view = some record) {id : SurfaceId} :
    id ∈ shell.popupSurfaces record ↔ shell.Below id record.surface ∧
      ∃ popup below, shell.popups.get? popup = some below ∧ below.surface = id := by
  have wraps := sound.windowOf live
  rw [mem_popupSurfaces]
  constructor
  · rintro ⟨popup, listed, below, found, rfl⟩
    obtain ⟨other, there, mine⟩ := linked.listed view record popup live listed
    obtain rfl := Option.some.inj (found.symm.trans there)
    obtain ⟨window, leads, root⟩ := (flat popup below found).rootView
    rw [mine] at root
    obtain rfl := root.surface_eq wraps
    exact ⟨leads, popup, below, found, rfl⟩
  · rintro ⟨leads, popup, below, found, rfl⟩
    have mine : below.view = view :=
      (flat popup below found).rootView.unique sound ⟨record.surface, leads, wraps⟩
    obtain ⟨owner, owns, once⟩ := linked.attached popup below found
    rw [mine, live] at owns
    obtain rfl := Option.some.inj owns
    exact ⟨popup, List.count_pos_iff.mp (by omega), below, found, rfl⟩

/-- Along the list of a view the surfaces differ, and none is below a later one. -/
theorem popupSurfaces_pairwise (sound : shell.Sound) (flat : shell.Flat) (nested : shell.Nested)
    (rising : record.popups.Pairwise fun first second => first.val.toNat < second.val.toNat) :
    (shell.popupSurfaces record).Pairwise fun earlier later => ¬ shell.Below earlier later := by
  rw [popupSurfaces, List.pairwise_filterMap]
  refine rising.imp fun {first second} lower earlier one later two leads => ?_
  obtain ⟨popup, found, rfl⟩ := Option.map_eq_some_iff.mp one
  obtain ⟨other, there, rfl⟩ := Option.map_eq_some_iff.mp two
  by_cases same : popup.surface = other.surface
  · obtain rfl := sound.popups_apart found there same
    omega
  · have higher := nested.lt_of_below flat sound there leads same first popup found rfl
    omega

theorem perform_close (sound : shell.Sound) (live : shell.views.get? view = some record) :
    shell.perform (.call view .close) =
      (shell.send (shell.dismissals record ++ [.close record.surface])).accept := by
  obtain ⟨surface, present, toplevel⟩ := sound.view_fits live
  obtain ⟨state, role⟩ := Surface.isToplevel_iff.mp toplevel
  have window : shell.window? view = some (record, surface, state) := by
    simp [window?, live, present, role, Role.toplevel?]
  have closes : surface.closeMessage? record.surface = some (.close record.surface) := by
    rw [Surface.closeMessage?, role]
  rw [perform, call, onWindow, window]
  simp only [closeWindow, closes, Option.toList_some]

end Closing

section Main

variable {start : Shell} {acts : List Act} {view : ViewId} {record : View}

/-- **Closing reaches every popup, and then the window.** In fewer acts than there are identifiers, asking
the window of a live view to close dismisses exactly the popups below it, in the order in which they were
opened, before the window itself is asked. -/
theorem close_dismisses_every_popup (begins : Reached 0 start) (short : acts.length < 2 ^ 32 - 1)
    (live : (start.performAll acts).views.get? view = some record) :
    ∃ surfaces, Dismisses start acts view record surfaces := by
  have reached := begins.performAll acts
  rw [Nat.zero_add] at reached
  have sound := reached.sound
  have linked := reached.linked (by omega)
  have flat := reached.flat short
  have nested := reached.nested short
  have rising := reached.ordered (by omega) view record live
  have found : ∀ popup ∈ record.popups, ∃ below,
      (start.performAll acts).popups.get? popup = some below ∧ below.view = view :=
    fun popup => linked.listed view record popup live
  have apart := popupSurfaces_pairwise sound flat nested rising
  refine ⟨(start.performAll acts).popupSurfaces record, ?_, ?_, ?_, ?_, apart, fun id member => ?_,
    fun id => mem_popupSurfaces_iff_below linked sound flat live⟩
  · rw [perform_close sound live, dismissals_eq linked sound live]
  · refine (map_some_filterMap fun popup listed => ?_).symm
    obtain ⟨below, there, -⟩ := found popup listed
    rw [there, Option.map_some, Option.isSome_some]
  · refine apart.imp ?_
    rintro earlier _ leads rfl
    exact leads .refl
  · refine rising.imp_of_mem fun listed _ lower => ?_
    obtain ⟨below, there, -⟩ := found _ listed
    exact openedBefore_of_lt begins short (by rw [there, Option.isSome_some]) lower
  · obtain ⟨popup, -, below, there, rfl⟩ := mem_popupSurfaces.mp member
    exact sound.popup_fits there

/-- A window with popups on popups, of which one was destroyed together with the one on it. -/
def prunedPopups : List Act :=
  [ .request (.newToplevel ⟨1⟩), .request (.newPopup ⟨2⟩ ⟨1⟩ {}), .request (.newPopup ⟨3⟩ ⟨1⟩ {}),
    .request (.newPopup ⟨4⟩ ⟨2⟩ {}), .request (.newPopup ⟨5⟩ ⟨3⟩ {}), .request (.destroy ⟨3⟩),
    .request (.newPopup ⟨3⟩ ⟨4⟩ {}) ]

/-- The surface that was used again is dismissed last, as the popup that was opened last. -/
theorem close_dismisses_every_popup_prunedPopups :
    ∃ record, ((fresh { pingOnCreate := false } .empty 0).performAll prunedPopups).views.get? ⟨1⟩ =
        some record ∧
      Dismisses (fresh { pingOnCreate := false } .empty 0) prunedPopups ⟨1⟩ record [⟨2⟩, ⟨4⟩, ⟨3⟩] := by
  have present : (((fresh { pingOnCreate := false } .empty 0).performAll prunedPopups).views.get?
      ⟨1⟩).map View.popups = some [⟨1⟩, ⟨3⟩, ⟨5⟩] := by decide +kernel
  obtain ⟨record, live, lists⟩ := Option.map_eq_some_iff.mp present
  obtain ⟨surfaces, dismisses⟩ := close_dismisses_every_popup
    (.fresh 0 { pingOnCreate := false } .empty 0) (by decide) live
  have named : record.popups.map (fun popup =>
      (((fresh { pingOnCreate := false } .empty 0).performAll prunedPopups).popups.get? popup).map
        Popup.surface) = [(⟨2⟩ : SurfaceId), ⟨4⟩, ⟨3⟩].map some := by
    rw [lists]
    decide +kernel
  have same := List.map_injective_iff.mpr (fun _ _ => Option.some.inj) (dismisses.listed.symm.trans named)
  exact ⟨record, live, same ▸ dismisses⟩

end Main

end Shell

end WindowShell
