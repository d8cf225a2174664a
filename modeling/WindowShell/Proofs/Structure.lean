/-
**How the parts of a shell hang together.**

A popup record names its view, and the view lists the popup. As long as the counts of views and popups
have not wrapped around, every new record gets an identifier that is not in use, and then the two sides
never part: a popup belongs to a live view that lists it once, and a view lists live popups of its own.
For the same reason an identifier of a view is never given to another view:

* `Linked.move`, `Reached.linked`: every move keeps views and popups linked;
* `Reached.surface_kept`: a view that is there before and after an act wraps the same surface.
-/

import Mathlib.Algebra.Group.Nat.Defs
import WindowShell.Proofs.Moves

namespace WindowShell

namespace Shell

/-- Views and popups are linked, and no more than so many of either were ever created. -/
structure Linked (count : Nat) (shell : Shell) : Prop where
  /-- The views were numbered in order. -/
  viewNumbers : ∀ id view, shell.views.get? id = some view →
    id.val.toNat ≤ shell.desktop.lastView.toNat
  /-- The popups were numbered in order. -/
  popupNumbers : ∀ id popup, shell.popups.get? id = some popup → id.val.toNat ≤ shell.lastPopup.toNat
  viewCount : shell.desktop.lastView.toNat ≤ count
  popupCount : shell.lastPopup.toNat ≤ count
  /-- A popup belongs to a view that lists it once. -/
  attached : ∀ id popup, shell.popups.get? id = some popup →
    ∃ view, shell.views.get? popup.view = some view ∧ view.popups.count id = 1
  /-- A view lists popups of its own. -/
  listed : ∀ id view popup, shell.views.get? id = some view → popup ∈ view.popups →
    ∃ record, shell.popups.get? popup = some record ∧ record.view = id

theorem linked_fresh (count : Nat) (settings : Settings) (seats : Table SeatId SeatMode)
    (refusals : Nat) : Linked count (fresh settings seats refusals) where
  viewNumbers _ _ found := by cases found
  popupNumbers _ _ found := by cases found
  viewCount := Nat.zero_le count
  popupCount := Nat.zero_le count
  attached _ _ found := by cases found
  listed _ _ _ found := by cases found

/-- The next number is greater than all before, as long as the count does not wrap around. -/
theorem toNat_succ {number : UInt32} {count : Nat} (few : number.toNat ≤ count)
    (small : count + 1 < 2 ^ 32) : (number + 1).toNat = number.toNat + 1 := by
  rw [UInt32.toNat_add]
  exact Nat.mod_eq_of_lt (by simpa using (by omega : number.toNat + 1 < 2 ^ 32))

/-- Popups whose view is gone are forgotten without a trace in other views. -/
theorem forgetPopups_orphans {shell : Shell} (ids : List PopupId)
    (orphans : ∀ id ∈ ids, ∀ popup, shell.popups.get? id = some popup →
      shell.views.get? popup.view = none) :
    (∀ id, (ids.foldl forgetPopup shell).views.get? id = shell.views.get? id) ∧
      (ids.foldl forgetPopup shell).desktop.lastView = shell.desktop.lastView ∧
      (ids.foldl forgetPopup shell).lastPopup = shell.lastPopup := by
  induction ids generalizing shell with
  | nil => simp
  | cons first ids ih =>
    have views : ∀ id, (shell.forgetPopup first).views.get? id = shell.views.get? id := fun id => by
      cases found : shell.popups.get? first with
      | none => rw [forgetPopup_of_none shell found]
      | some popup =>
        rw [forgetPopup_of_some shell found, Table.get?_modify]
        split
        · next same => rw [same, orphans first List.mem_cons_self popup found, Option.map_none]
        · rfl
    have counts : (shell.forgetPopup first).desktop.lastView = shell.desktop.lastView ∧
        (shell.forgetPopup first).lastPopup = shell.lastPopup := by
      unfold forgetPopup
      split <;> exact ⟨rfl, rfl⟩
    have orphaned : ∀ id ∈ ids, ∀ popup, (shell.forgetPopup first).popups.get? id = some popup →
        (shell.forgetPopup first).views.get? popup.view = none := fun id member popup found => by
      rw [popups_forgetPopup] at found
      split at found
      · cases found
      · rw [views]
        exact orphans id (List.mem_cons_of_mem first member) popup found
    have rest := ih orphaned
    exact ⟨fun id => (rest.1 id).trans (views id), rest.2.1.trans counts.1, rest.2.2.trans counts.2⟩

namespace Linked

variable {count births : Nat} {before after : Shell}

theorem mono (linked : Linked count before) {more : Nat} (enough : count ≤ more) :
    Linked more before :=
  { linked with
    viewCount := Nat.le_trans linked.viewCount enough
    popupCount := Nat.le_trans linked.popupCount enough }

theorem congr (linked : Linked count before) (same : after.frame = before.frame) :
    Linked count after where
  viewNumbers id view found := by
    obtain ⟨old, there, -⟩ := view_of_frame same found
    rw [lastView_of_frame same]
    exact linked.viewNumbers id old there
  popupNumbers id popup found := by
    obtain ⟨old, there, -⟩ := popup_of_frame same found
    rw [lastPopup_of_frame same]
    exact linked.popupNumbers id old there
  viewCount := by
    rw [lastView_of_frame same]
    exact linked.viewCount
  popupCount := by
    rw [lastPopup_of_frame same]
    exact linked.popupCount
  attached id popup found := by
    obtain ⟨old, there, core⟩ := popup_of_frame same found
    obtain ⟨owner, owns, once⟩ := linked.attached id old there
    obtain ⟨view, present, ownerCore⟩ := view_of_frame same.symm owns
    rw [← Popup.view_of_core core]
    exact ⟨view, present, View.popups_of_core ownerCore ▸ once⟩
  listed id view popup found member := by
    obtain ⟨old, there, core⟩ := view_of_frame same found
    rw [← View.popups_of_core core] at member
    obtain ⟨record, listed, owner⟩ := linked.listed id old popup there member
    obtain ⟨other, present, recordCore⟩ := popup_of_frame same.symm listed
    exact ⟨other, present, (Popup.view_of_core recordCore).trans owner⟩

/-- The number of the next view is not in use. -/
theorem nextView_unused (linked : Linked count before) (small : count + 1 < 2 ^ 32) :
    before.views.get? before.nextView = none := by
  cases found : before.views.get? before.nextView with
  | none => rfl
  | some view =>
    have below := linked.viewNumbers _ view found
    rw [nextView, toNat_succ linked.viewCount small] at below
    omega

/-- The number of the next popup is not in use. -/
theorem nextPopup_unused (linked : Linked count before) (small : count + 1 < 2 ^ 32) :
    before.popups.get? before.nextPopup = none := by
  cases found : before.popups.get? before.nextPopup with
  | none => rfl
  | some popup =>
    have below := linked.popupNumbers _ popup found
    rw [nextPopup, toNat_succ linked.popupCount small] at below
    omega

/-- A new view has a number of its own and no popups. -/
theorem withView (linked : Linked count before) (small : count + 1 < 2 ^ 32) (surface : SurfaceId)
    (counted : (before.withView surface).desktop.lastView = before.desktop.lastView + 1) :
    Linked (count + 1) (before.withView surface) := by
  have next := toNat_succ linked.viewCount small
  have unused := linked.nextView_unused small
  have views : ∀ id, (before.withView surface).views.get? id =
      if id = before.nextView then some _ else before.views.get? id := fun id =>
    Table.get?_insert _ _ _ _
  have count := linked.viewCount
  refine ⟨fun id view found => ?_, linked.popupNumbers, by rw [counted, next]; omega,
    Nat.le_succ_of_le linked.popupCount, fun id popup found => ?_, fun id view popup found => ?_⟩
  · rw [counted, next]
    rw [views] at found
    split at found
    · next same =>
      have last : id.val.toNat = before.desktop.lastView.toNat + 1 := by rw [same, nextView, next]
      exact Nat.le_of_eq last
    · exact Nat.le_succ_of_le (linked.viewNumbers id view found)
  · obtain ⟨owner, owns, once⟩ := linked.attached id popup found
    refine ⟨owner, ?_, once⟩
    rw [views, if_neg, owns]
    intro same
    rw [same, unused] at owns
    cases owns
  · rw [views] at found
    split at found
    · obtain rfl := Option.some.inj found
      exact fun member => absurd member List.not_mem_nil
    · exact linked.listed id view popup found

/-- A new popup has a number of its own and is listed by its view. -/
theorem withPopup (linked : Linked count before) (small : count + 1 < 2 ^ 32) (view : ViewId)
    (surface : SurfaceId) {owner : View} (owns : before.views.get? view = some owner) :
    Linked (count + 1) (before.withPopup view surface) := by
  have next := toNat_succ linked.popupCount small
  have unused := linked.nextPopup_unused small
  have unlisted : ∀ id other, before.views.get? id = some other →
      before.nextPopup ∉ other.popups := fun id other found member => by
    obtain ⟨record, listed, -⟩ := linked.listed id other _ found member
    rw [unused] at listed
    cases listed
  have popups : ∀ id, (before.withPopup view surface).popups.get? id =
      if id = before.nextPopup then some _ else before.popups.get? id := fun id =>
    Table.get?_insert _ _ _ _
  have views : ∀ id, (before.withPopup view surface).views.get? id = _ := fun id =>
    Table.get?_modify _ _ _ _
  have count := linked.popupCount
  refine ⟨fun id other found => ?_, fun id popup found => ?_, Nat.le_succ_of_le linked.viewCount,
    by rw [Shell.withPopup, nextPopup, next]; omega, fun id popup found => ?_,
    fun id other popup found member => ?_⟩
  · rw [views] at found
    split at found
    · obtain ⟨old, there, -⟩ := Option.map_eq_some_iff.mp found
      exact linked.viewNumbers id old there
    · exact linked.viewNumbers id other found
  · rw [Shell.withPopup, nextPopup, next]
    rw [popups] at found
    split at found
    · next same =>
      have last : id.val.toNat = before.lastPopup.toNat + 1 := by rw [same, nextPopup, next]
      exact Nat.le_of_eq last
    · exact Nat.le_succ_of_le (linked.popupNumbers id popup found)
  · rw [popups] at found
    split at found
    · next same =>
      subst same
      obtain rfl := Option.some.inj found
      refine ⟨_, by rw [views, if_pos rfl, owns, Option.map_some], ?_⟩
      simp [List.count_eq_zero_of_not_mem (unlisted view owner owns)]
    · next differ =>
      obtain ⟨lister, lists, once⟩ := linked.attached id popup found
      by_cases same : popup.view = view
      · refine ⟨_, by rw [views, if_pos same, lists, Option.map_some], ?_⟩
        simpa [List.count_append, List.count_singleton, Ne.symm differ] using once
      · exact ⟨lister, by rw [views, if_neg same, lists], once⟩
  · have known : ∀ old, before.views.get? id = some old → popup ∈ old.popups →
        ∃ record, (before.withPopup view surface).popups.get? popup = some record ∧
          record.view = id := fun old there inside => by
      obtain ⟨record, listed, mine⟩ := linked.listed id old popup there inside
      refine ⟨record, ?_, mine⟩
      rw [popups, if_neg, listed]
      rintro rfl
      exact unlisted id old there inside
    rw [views] at found
    split at found
    · next same =>
      subst same
      obtain ⟨old, there, rfl⟩ := Option.map_eq_some_iff.mp found
      rcases List.mem_append.mp member with inside | new
      · exact known old there inside
      · obtain rfl := List.mem_singleton.mp new
        exact ⟨_, by rw [popups, if_pos rfl], rfl⟩
    · exact known other found member

/-- A popup that is forgotten is not listed any more, and no other popup is affected. -/
theorem forgetPopup (linked : Linked count before) (id : PopupId) :
    Linked count (before.forgetPopup id) := by
  cases found : before.popups.get? id with
  | none => rwa [forgetPopup_of_none before found]
  | some popup =>
    rw [forgetPopup_of_some before found]
    refine ⟨fun other view there => ?_, fun other record there => ?_, linked.viewCount,
      linked.popupCount, fun other record there => ?_, fun other view listed there member => ?_⟩
    · simp only [Table.get?_modify] at there
      split at there
      · obtain ⟨old, there, -⟩ := Option.map_eq_some_iff.mp there
        exact linked.viewNumbers other old there
      · exact linked.viewNumbers other view there
    · simp only [Table.get?_erase] at there
      split at there
      · cases there
      · exact linked.popupNumbers other record there
    · simp only [Table.get?_erase] at there
      split at there
      · cases there
      · next differ =>
        obtain ⟨lister, lists, once⟩ := linked.attached other record there
        simp only [Table.get?_modify, lists, Option.map_some]
        split
        · refine ⟨_, rfl, ?_⟩
          rw [List.count_filter (by simpa using differ)]
          exact once
        · exact ⟨lister, rfl, once⟩
    · have known : ∀ old, before.views.get? other = some old → listed ∈ old.popups →
          listed ≠ id → ∃ record, (before.popups.erase id).get? listed = some record ∧
            record.view = other := fun old there inside differ => by
        rw [Table.get?_erase, if_neg differ]
        exact linked.listed other old listed there inside
      simp only [Table.get?_modify] at there
      split at there
      · obtain ⟨old, here, rfl⟩ := Option.map_eq_some_iff.mp there
        obtain ⟨inside, differ⟩ := List.mem_filter.mp member
        exact known old here inside (by simpa using differ)
      · next elsewhere =>
        refine known view there member ?_
        rintro rfl
        obtain ⟨record, present, mine⟩ := linked.listed other view listed there member
        obtain rfl := Option.some.inj (found.symm.trans present)
        exact elsewhere mine.symm

/-- Without its view a popup belongs to no view. -/
theorem orphans (linked : Linked count before) {id : ViewId} {view : View}
    (found : before.views.get? id = some view) :
    ∀ popup ∈ view.popups, ∀ record, (before.dropView id).popups.get? popup = some record →
      (before.dropView id).views.get? record.view = none := fun popup member record there => by
  obtain ⟨other, listed, mine⟩ := linked.listed id view popup found member
  obtain rfl := Option.some.inj (listed.symm.trans there)
  rw [dropView, Table.get?_erase, if_pos mine]

/-- Forgetting a view leaves the records of all other views alone. -/
theorem views_forgetView (linked : Linked count before) (id other : ViewId) :
    (before.forgetView id).views.get? other =
      if other = id then none else before.views.get? other := by
  cases found : before.views.get? id with
  | none =>
    rw [forgetView_of_none before found]
    split
    · next same => rw [same, found]
    · rfl
  | some view =>
    rw [forgetView_of_some before found,
      (forgetPopups_orphans view.popups (linked.orphans found)).1, dropView, Table.get?_erase]

/-- A view is forgotten together with exactly the popups that belong to it. -/
theorem forgetView (linked : Linked count before) (id : ViewId) :
    Linked count (before.forgetView id) := by
  cases found : before.views.get? id with
  | none => rwa [forgetView_of_none before found]
  | some view =>
    rw [forgetView_of_some before found]
    obtain ⟨views, lastView, lastPopup⟩ := forgetPopups_orphans view.popups (linked.orphans found)
    have popups := popups_forgetPopups (before.dropView id) view.popups
    have stays : ∀ other, (before.dropView id).views.get? other =
        if other = id then none else before.views.get? other := fun other => Table.get?_erase _ _ _
    refine ⟨fun other record there => ?_, fun other record there => ?_,
      lastView ▸ linked.viewCount, lastPopup ▸ linked.popupCount, fun other record there => ?_,
      fun other record popup there member => ?_⟩
    · rw [views, stays] at there
      split at there
      · cases there
      · exact lastView ▸ linked.viewNumbers other record there
    · rw [popups] at there
      split at there
      · cases there
      · exact lastPopup ▸ linked.popupNumbers other record there
    · rw [popups] at there
      split at there
      · cases there
      · next kept =>
        obtain ⟨lister, lists, once⟩ := linked.attached other record there
        refine ⟨lister, ?_, once⟩
        rw [views, stays, if_neg, lists]
        rintro same
        rw [same] at lists
        obtain rfl := Option.some.inj (found.symm.trans lists)
        exact kept (List.count_pos_iff.mp (by omega))
    · rw [views, stays] at there
      split at there
      · cases there
      · next differ =>
        obtain ⟨popupRecord, present, mine⟩ := linked.listed other record popup there member
        refine ⟨popupRecord, ?_, mine⟩
        rw [popups, if_neg]
        · exact present
        · intro orphaned
          obtain ⟨also, same, other⟩ := linked.listed id view popup found orphaned
          obtain rfl := Option.some.inj (present.symm.trans same)
          exact differ (mine.symm.trans other)

/-- **Every move keeps views and popups linked**, as long as the counts do not wrap around. -/
theorem move (linked : Linked count before) (move : Move births before after)
    (small : count + births < 2 ^ 32) : Linked (count + births) after := by
  cases move with
  | alike same => exact linked.congr same
  | surface | vanish =>
    exact ⟨linked.viewNumbers, linked.popupNumbers, linked.viewCount, linked.popupCount,
      linked.attached, linked.listed⟩
  | createView surface =>
    rcases createView_cases before surface with same | ⟨created, counted⟩
    · exact (linked.congr same).mono (Nat.le_succ count)
    · rw [created]
      exact linked.withView small surface counted
  | createPopup view surface =>
    rcases createPopup_cases before view surface with same | ⟨⟨owner, owns⟩, created⟩
    · rw [same]
      exact linked.mono (Nat.le_succ count)
    · rw [created]
      exact linked.withPopup small view surface owns
  | forgetPopup id => exact linked.forgetPopup id
  | forgetView id => exact linked.forgetView id

theorem moves (linked : Linked count before) (moves : Moves births before after)
    (small : count + births < 2 ^ 32) : Linked (count + births) after := by
  induction moves with
  | refl => exact linked
  | @tail births more _ _ _ _ move ih =>
    rw [← Nat.add_assoc]
    exact (ih linked (by omega)).move move (by omega)

end Linked

/-! ### Views keep their surfaces -/

theorem forgetPopups_desktop (shell : Shell) (ids : List PopupId) :
    (ids.foldl forgetPopup shell).desktop = shell.desktop := by
  induction ids generalizing shell with
  | nil => rfl
  | cons id ids ih =>
    rw [List.foldl_cons, ih, forgetPopup]
    split <;> rfl

/-- The desktop is not told of a view that is forgotten. -/
theorem forgetView_desktop (shell : Shell) (id : ViewId) :
    (shell.forgetView id).desktop = shell.desktop := by
  cases found : shell.views.get? id with
  | none => rw [forgetView_of_none shell found]
  | some view => rw [forgetView_of_some shell found, forgetPopups_desktop, dropView]

/-- An identifier that was given out wraps this surface or nothing. -/
structure Settled (shell : Shell) (id : ViewId) (surface : SurfaceId) : Prop where
  /-- The identifier was given out. -/
  given : id.val.toNat ≤ shell.desktop.lastView.toNat
  /-- It wraps no other surface. -/
  only : ∀ wrapping, shell.wrapping? (.view id) = some wrapping → wrapping.surface = surface

/-- As long as the count does not wrap around, no identifier is given out again. -/
theorem Settled.move {count births : Nat} {before after : Shell} {id : ViewId} {surface : SurfaceId}
    (settled : before.Settled id surface) (linked : Linked count before)
    (move : Move births before after) (small : count + births < 2 ^ 32) :
    after.Settled id surface := by
  cases move with
  | alike same =>
    exact ⟨lastView_of_frame same ▸ settled.given,
      fun wrapping found => settled.only wrapping (wrapping?_of_frame same _ ▸ found)⟩
  | surface | vanish => exact ⟨settled.given, settled.only⟩
  | createView other =>
    rcases createView_cases before other with same | ⟨created, counted⟩
    · exact ⟨lastView_of_frame same ▸ settled.given,
        fun wrapping found => settled.only wrapping (wrapping?_of_frame same _ ▸ found)⟩
    · have next := toNat_succ linked.viewCount small
      have given := settled.given
      rw [created]
      refine ⟨by rw [counted, next]; omega, fun wrapping found => ?_⟩
      rw [wrapping?_withView, if_neg] at found
      · exact settled.only wrapping found
      · intro same
        rw [ListenerTarget.view.inj same, nextView, next] at given
        omega
  | createPopup view other =>
    rcases createPopup_cases before view other with same | ⟨-, created⟩
    · rwa [same]
    · rw [created]
      refine ⟨settled.given, fun wrapping found => ?_⟩
      rw [wrapping?_withPopup, if_neg (by simp)] at found
      exact settled.only wrapping found
  | forgetPopup popup =>
    refine ⟨?_, fun wrapping found => ?_⟩
    · rw [Shell.forgetPopup]
      split <;> exact settled.given
    · rw [wrapping?_forgetPopup, if_neg (by simp)] at found
      exact settled.only wrapping found
  | forgetView view =>
    refine ⟨forgetView_desktop before view ▸ settled.given, fun wrapping found => ?_⟩
    cases there : before.views.get? view with
    | none =>
      rw [forgetView_of_none before there] at found
      exact settled.only wrapping found
    | some record =>
      rw [wrapping?_forgetView there] at found
      split at found
      · cases found
      · exact settled.only wrapping found

theorem Settled.moves {count births : Nat} {before after : Shell} {id : ViewId}
    {surface : SurfaceId} (settled : before.Settled id surface) (linked : Linked count before)
    (moves : Moves births before after) (small : count + births < 2 ^ 32) :
    after.Settled id surface := by
  induction moves with
  | refl => exact settled
  | @tail births more _ _ _ moves move ih =>
    exact (ih settled linked (by omega)).move (linked.moves moves (by omega)) move (by omega)

theorem Reached.linked {count : Nat} {shell : Shell} (reached : Reached count shell)
    (short : count < 2 ^ 32) : Linked count shell := by
  induction reached with
  | fresh count settings seats refusals => exact linked_fresh count settings seats refusals
  | @act count shell act reached ih =>
    obtain ⟨births, few, moves⟩ := perform_moves reached.sound reached.roled act
    exact ((ih (by omega)).moves moves (by omega)).mono (by omega)

/-- In fewer acts than there are identifiers, a view that is there before and after an act wraps the
same surface. -/
theorem Reached.surface_kept {count : Nat} {shell : Shell} (reached : Reached count shell)
    (short : count < 2 ^ 32 - 1) (act : Act) {id : ViewId} {old new : View}
    (live : shell.views.get? id = some old)
    (kept : (shell.perform act).shell.views.get? id = some new) : new.surface = old.surface := by
  have linked := reached.linked (by omega)
  have settled : shell.Settled id old.surface :=
    ⟨linked.viewNumbers id old live, fun wrapping found => by
      rw [wrapping?, live, Option.map_some, Option.some.injEq] at found
      rw [← found]
      rfl⟩
  obtain ⟨births, few, moves⟩ := perform_moves reached.sound reached.roled act
  have after := settled.moves linked moves (by omega)
  exact after.only new.wrapping (by rw [wrapping?, kept, Option.map_some])

end Shell

end WindowShell
