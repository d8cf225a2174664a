/-
**Independent steps commute.**

Two steps in the trees of different windows do not notice each other, so their order does not matter. A
step that stays out of a closed region leaves a twin of the shell there, and a step within the region does
the same to both. So each step finds, after the other one, what it would have found before. The tables of
the shell keep their order as long as nothing is created, and what is released is counted; so in the end
the shells are equal, except for the logs, where the parts of the two steps are interchanged:

* `unlogged`, `Commute`: a shell without its logs, and what it means that steps commute;
* `unlogged_congr`: two shells that came from one shell and look the same are the same;
* `Within.twins`: a step leaves a twin of the shell on the other side of a border;
* `commute_of_region`: steps on both sides of the border of a closed region commute;
* `independent_steps_commute`: so do steps in the trees of different windows.

Only one thing is shared, the counter of serials: at most one of the steps may take a serial from it.
-/

import WindowShell.Proofs.Isolation
import WindowShell.Proofs.Posting

namespace WindowShell

theorem Registry.ext {first second : Registry} (issued : first.issued = second.issued)
    (live : first.live = second.live) (released : first.released = second.released) : first = second := by
  cases first
  cases second
  cases issued
  cases live
  cases released
  rfl

namespace Shell

/-- A shell without its logs: the messages that were posted, and what the desktop was told. -/
def unlogged (shell : Shell) : Shell :=
  { shell with outbox := [], desktop := { shell.desktop with events := [] } }

/-- **Two steps commute.** Each is rejected for the same reason or carried out in both orders, and the
shells afterwards differ only in the order of what the two steps posted and told. -/
structure Commute (shell : Shell) (first second : Step) : Prop where
  firstFault : ((shell.apply second).shell.apply first).fault = (shell.apply first).fault
  secondFault : ((shell.apply first).shell.apply second).fault = (shell.apply second).fault
  state : ((shell.apply first).shell.apply second).shell.unlogged =
    ((shell.apply second).shell.apply first).shell.unlogged
  posted : ∃ messages more,
    (shell.apply first).shell.outbox = shell.outbox ++ messages ∧
      (shell.apply second).shell.outbox = shell.outbox ++ more ∧
      ((shell.apply first).shell.apply second).shell.outbox = shell.outbox ++ messages ++ more ∧
      ((shell.apply second).shell.apply first).shell.outbox = shell.outbox ++ more ++ messages
  told : ∃ events further,
    (shell.apply first).shell.desktop.events = shell.desktop.events ++ events ∧
      (shell.apply second).shell.desktop.events = shell.desktop.events ++ further ∧
      ((shell.apply first).shell.apply second).shell.desktop.events =
        shell.desktop.events ++ events ++ further ∧
      ((shell.apply second).shell.apply first).shell.desktop.events =
        shell.desktop.events ++ further ++ events

section Equality

variable {region : Region} {shell first second : Shell}

/-- **Two shells that came from one shell are equal** without their logs, if they look the same on both
sides of a border and count serials alike. -/
theorem unlogged_congr (inside : Alike region first second) (outside : Alike region.rest first second)
    (one : Thins shell first) (two : Thins shell second) (moves : Moves 0 shell first)
    (also : Moves 0 shell second) (sound : shell.Sound) (serials : first.serials = second.serials) :
    first.unlogged = second.unlogged := by
  have surfaces : first.surfaces = second.surfaces := by
    refine Table.eq_of_order shell.surfaces.keys_nodup one.surfaceOrder two.surfaceOrder fun id => ?_
    by_cases mine : region.surfaces id
    · exact inside.surfaces id mine
    · exact outside.surfaces id mine
  have views : first.views = second.views := by
    refine Table.eq_of_order shell.views.keys_nodup one.viewOrder two.viewOrder fun id => ?_
    by_cases mine : region.views id
    · exact inside.views id mine
    · exact outside.views id mine
  have popups : first.popups = second.popups := by
    refine Table.eq_of_order shell.popups.keys_nodup one.popupOrder two.popupOrder fun id => ?_
    ext record
    by_cases mine : region.views record.view
    · exact inside.popups id record mine
    · exact outside.popups id record mine
  have wraps : ∀ target, first.wrapping? target = second.wrapping? target := fun target => by
    cases target with
    | view id => rw [Shell.wrapping?, Shell.wrapping?, views]
    | popup id => rw [Shell.wrapping?, Shell.wrapping?, popups]
  have live : first.registry.live = second.registry.live := by
    refine Table.eq_of_order shell.registry.live.keys_nodup one.liveOrder two.liveOrder fun id => ?_
    ext registration
    rw [(moves.sound sound).held.holders.live, (also.sound sound).held.holders.live, holdings, holdings,
      wraps]
  -- what is not live any more was released, and as much was live before in both
  have counted := (moves.conserves rfl).trans (also.conserves rfl).symm
  have released : first.registry.released = second.registry.released := by
    rw [accounted, accounted, Registry.size, Registry.size, live] at counted
    omega
  have registry : first.registry = second.registry :=
    Registry.ext (one.issued.trans two.issued.symm) live released
  have seats : first.desktop.seats = second.desktop.seats := one.seats.trans two.seats.symm
  have lastView := one.lastView.trans two.lastView.symm
  have refusals := one.refusals.trans two.refusals.symm
  have settings := one.settings.trans two.settings.symm
  have lastPopup := one.lastPopup.trans two.lastPopup.symm
  simp only [unlogged, settings, seats, lastView, refusals, surfaces, views, popups, registry, serials,
    lastPopup]

end Equality

/-- **What happens within a region leaves a twin outside of it.** -/
theorem Within.twins {region : Region} {messages : List Message} {events : List Event}
    {shell after : Shell} {count : Nat} (within : Within region messages events shell after)
    (whole : Whole count shell) (closed : Closed region shell) : Twins region.rest shell after where
  alike := within.rest
  seats := within.thins.seats.symm
  whole := ⟨count, whole⟩
  also := ⟨count, whole.moves within.moves⟩
  closed := closed.rest
  shut := closed.rest.thins within.thins

section Steps

variable {region : Region} {shell : Shell} {count : Nat} {first second : Step} {mine yours : SurfaceId}

/-- A step that sends no serial takes none. -/
theorem serials_of_unnumbered (roled : shell.Roled)
    (silent : ¬ Numbers shell (shell.apply first).shell) :
    (shell.apply first).shell.serials = shell.serials := by
  have posts : Posts shell (shell.apply first).shell := by
    rw [apply_shell, after]
    cases shell.act? first with
    | none => exact .nothing rfl rfl
    | some act => exact perform_posts roled act
  obtain ⟨messages, outbox, ⟨same, -⟩ | ⟨-, numbered⟩⟩ := posts
  · exact same
  · have member : shell.serials.next ∈ messages.filterMap Message.serial? := by
      rw [numbered]
      exact List.mem_singleton_self _
    obtain ⟨message, sent, carries⟩ := List.mem_filterMap.mp member
    refine absurd ((numbers_iff outbox).mpr ⟨message, sent, ?_⟩) silent
    rw [carries, Option.isSome_some]

/-- Where at most one of two steps sends a serial, the first sends none or it finds the serials as they
were. -/
theorem counts_alike (roled : shell.Roled)
    (few : ¬ (Numbers shell (shell.apply first).shell ∧ Numbers shell (shell.apply second).shell)) :
    shell.serials = (shell.apply second).shell.serials ∨
      ¬ Numbers shell (shell.apply first).shell := by
  by_cases numbers : Numbers shell (shell.apply first).shell
  · exact .inl (serials_of_unnumbered roled fun both => few ⟨numbers, both⟩).symm
  · exact .inr numbers

/-- **Steps on both sides of a border commute.** -/
theorem commute_of_region (whole : Whole count shell) (reached : Reached count shell)
    (closed : Closed region shell) (keeps : ¬ first.Creates) (also : ¬ second.Creates)
    (inside : region.surfaces first.surface) (outside : ¬ region.surfaces second.surface)
    (few : ¬ (Numbers shell (shell.apply first).shell ∧ Numbers shell (shell.apply second).shell)) :
    shell.Commute first second := by
  have roled := reached.roled
  have sorted := reached.parentsFirst
  obtain ⟨_, _, within⟩ := apply_within whole sorted closed keeps inside
  obtain ⟨_, _, without⟩ := apply_within whole sorted closed.rest also outside
  -- each step leaves a twin on the other side, and there the other step does what it would have done
  have near : Twins region shell (shell.apply second).shell :=
    region.rest_rest ▸ without.twins whole closed.rest
  have far : Twins region.rest shell (shell.apply first).shell := within.twins whole closed
  obtain ⟨fault, later⟩ :=
    near.apply sorted (reached.apply second).parentsFirst keeps inside (counts_alike roled few)
  obtain ⟨fault', later'⟩ :=
    far.apply sorted (reached.apply first).parentsFirst also outside
      (counts_alike roled fun both => few both.symm)
  obtain ⟨messages, events, early, late⟩ := later.within
  obtain ⟨more, further, early', late'⟩ := later'.within
  have one : Alike region ((shell.apply first).shell.apply second).shell
      ((shell.apply second).shell.apply first).shell :=
    (region.rest_rest ▸ late'.rest).symm.trans later.alike
  have two : Alike region.rest ((shell.apply first).shell.apply second).shell
      ((shell.apply second).shell.apply first).shell := later'.alike.symm.trans late.rest
  have serials : ((shell.apply first).shell.apply second).shell.serials =
      ((shell.apply second).shell.apply first).shell.serials := by
    rcases later.serials with ⟨here, same⟩ | ⟨here, same⟩ <;>
      rcases later'.serials with ⟨there, also⟩ | ⟨there, also⟩
    · rw [also, same, here, there]
    · rw [same, also]
    · rw [also, same]
    · rw [← also, ← same, ← here, there]
  refine ⟨fault.symm, fault'.symm, ?_, ⟨messages, more, early.outbox, early'.outbox, ?_, ?_⟩,
    events, further, early.log, early'.log, ?_, ?_⟩
  · exact unlogged_congr one two (early.thins.trans late'.thins) (early'.thins.trans late.thins)
      (early.moves.trans late'.moves) (early'.moves.trans late.moves) whole.sound serials
  · rw [late'.outbox, early.outbox]
  · rw [late.outbox, early'.outbox]
  · rw [late'.log, early.log]
  · rw [late.log, early'.log]

/-- **Independent steps commute.** In fewer acts than there are identifiers, two steps that create nothing
and are about surfaces that belong to different windows commute, if at most one of them sends a serial. -/
theorem independent_steps_commute (reached : Reached count shell) (short : count < 2 ^ 32 - 1)
    (keeps : ¬ first.Creates) (also : ¬ second.Creates) (rooted : shell.Rooted first.surface mine)
    (other : shell.Rooted second.surface yours) (apart : mine ≠ yours)
    (few : ¬ (Numbers shell (shell.apply first).shell ∧ Numbers shell (shell.apply second).shell)) :
    shell.Commute first second := by
  have whole := reached.whole short
  have closed := tree_closed whole.sound (reached.flat short) rooted
  refine commute_of_region whole reached closed keeps also rooted.1 (fun below => ?_) few
  exact apart (Rooted.unique ⟨below, rooted.2⟩ other)

/-- The popups and the window of one tree are asked to go away, and the window of another is told its size.
Only the configure carries a serial, and both orders send the same messages. -/
theorem independent_steps_commute_nestedPopups :
    ∃ shell configure, shell = (fresh { pingOnCreate := false } .empty 0).performAll nestedPopups ∧
      shell.Commute (.close ⟨1⟩) (.moveResize ⟨4⟩ { x := 5 } { width := 30, height := 20 }) ∧
      ((shell.apply (.close ⟨1⟩)).shell.apply
          (.moveResize ⟨4⟩ { x := 5 } { width := 30, height := 20 })).shell.outbox =
        shell.outbox ++ [.popupDone ⟨2⟩, .popupDone ⟨3⟩, .close ⟨1⟩] ++ [.configure ⟨4⟩ configure] ∧
      ((shell.apply (.moveResize ⟨4⟩ { x := 5 } { width := 30, height := 20 })).shell.apply
          (.close ⟨1⟩)).shell.outbox =
        shell.outbox ++ [.configure ⟨4⟩ configure] ++ [.popupDone ⟨2⟩, .popupDone ⟨3⟩, .close ⟨1⟩] := by
  have reached : Reached 10 ((fresh { pingOnCreate := false } .empty 0).performAll nestedPopups) :=
    (Reached.fresh 0 { pingOnCreate := false } .empty 0).performAll nestedPopups
  have closing : (((fresh { pingOnCreate := false } .empty 0).performAll nestedPopups).apply
      (.close ⟨1⟩)).shell.outbox =
        ((fresh { pingOnCreate := false } .empty 0).performAll nestedPopups).outbox ++
          [.popupDone ⟨2⟩, .popupDone ⟨3⟩, .close ⟨1⟩] := by decide +kernel
  have commute := independent_steps_commute reached (by decide)
    (show ¬ Step.Creates (.close ⟨1⟩) from nofun)
    (show ¬ Step.Creates (.moveResize ⟨4⟩ { x := 5 } { width := 30, height := 20 }) from nofun)
    (rooted_of_window (by decide +kernel)) (rooted_of_window (by decide +kernel)) (by decide)
    fun both => absurd ((numbers_iff closing).mp both.1) (by decide)
  refine ⟨_, { serial := ⟨3, by decide⟩, payload := .toplevel { size := ⟨30, 20⟩ } }, rfl, commute, ?_, ?_⟩
  · decide +kernel
  · decide +kernel

end Steps

end Shell

end WindowShell
