/-
**The picture of a view in the log.**

The desktop never looks into the shell; all it has is what it was told. From that it can paint a picture
of every view: the view is where it last moved to, it has the size with which it was last mapped or
resized, and it is visible if it was mapped and not unmapped since. The picture is always a likeness,
because no position, size or visibility of a view ever changes untold:

* `Picture.ofLog`: the picture that a log paints;
* `Leads.painted`: one step in the life of a view changes the view as it changes the picture;
* `views_match_their_log`: so every view of a report is as its log paints it, and as its surface is.
-/

import Mathlib.Data.List.Chain
import WindowShell.Proofs.Narration

namespace WindowShell

namespace Event

/-- The size that an event gives to a view. -/
def sizedTo? (id : ViewId) : Event → Option Size
  | .mapped view size | .resized view size => if view = id then some size else none
  | _ => none

/-- Whether a view is visible after an event that decides it. -/
def shown? (id : ViewId) : Event → Option Bool
  | .mapped view _ => if view = id then some true else none
  | .unmapped view => if view = id then some false else none
  | _ => none

/-- An event tells nothing of the position, the size or the visibility of a view. -/
structure Mute (id : ViewId) (event : Event) : Prop where
  movedTo? : event.movedTo? id = none
  sizedTo? : event.sizedTo? id = none
  shown? : event.shown? id = none

theorem mute_of_other {id : ViewId} {event : Event} (other : event.view ≠ id) : event.Mute id := by
  constructor <;> cases event <;> first | rfl | exact if_neg other

theorem mute_of_passing (id : ViewId) {event : Event} (passing : event.Passing) : event.Mute id := by
  constructor <;> cases event <;> first | rfl | cases passing

end Event

/-- What the last event of a log says that says anything of the kind. -/
def lastTold {α : Type} (tells : Event → Option α) (log : List Event) : Option α :=
  (log.filterMap tells).getLast?

theorem lastTold_append {α : Type} (tells : Event → Option α) (log more : List Event) :
    lastTold tells (log ++ more) = (lastTold tells more).or (lastTold tells log) := by
  rw [lastTold, List.filterMap_append, List.getLast?_append, lastTold, lastTold]

namespace Picture

/-- **The picture that a log paints of a view.** Until the view is told to move it is at the origin, and
until it is mapped it has no size. -/
def ofLog (id : ViewId) (log : List Event) : Picture where
  position := (lastTold (Event.movedTo? id) log).getD {}
  size := (lastTold (Event.sizedTo? id) log).getD {}
  mapped := (lastTold (Event.shown? id) log).getD false

theorem ofLog_append (id : ViewId) (log more : List Event) :
    ofLog id (log ++ more) =
      { position := (lastTold (Event.movedTo? id) more).getD (ofLog id log).position
        size := (lastTold (Event.sizedTo? id) more).getD (ofLog id log).size
        mapped := (lastTold (Event.shown? id) more).getD (ofLog id log).mapped } := by
  simp only [ofLog, lastTold_append, Option.getD_or]

/-- Mute events leave the picture as it is. -/
theorem ofLog_append_mute {id : ViewId} (log : List Event) {more : List Event}
    (mute : ∀ event ∈ more, event.Mute id) :
    ofLog id (log ++ more) = ofLog id log := by
  have silent : ∀ {α : Type} {tells : Event → Option α}, (∀ event ∈ more, tells event = none) →
      lastTold tells more = none := fun none => by
    rw [lastTold, List.filterMap_eq_nil_iff.mpr none, List.getLast?_nil]
  rw [ofLog_append, silent fun event member => (mute event member).movedTo?,
    silent fun event member => (mute event member).sizedTo?,
    silent fun event member => (mute event member).shown?]
  rfl

end Picture

/-! ### Painting along a life -/

/-- A stage of a view as its log paints it. Of a view that is not live the log may say what it likes, as
long as no move leads nowhere. -/
structure Painted (id : ViewId) (log : List Event) (stage : Stage) : Prop where
  /-- Nothing is told of a view before it is created. -/
  unborn : stage = .unborn → ∀ event ∈ log, event.view ≠ id
  live : ∀ picture, stage = .live picture → picture = .ofLog id log
  /-- Every move leads away, also the first one from the origin. -/
  moves : ({} :: log.filterMap (Event.movedTo? id)).IsChain (· ≠ ·)

section Painting

variable {id : ViewId} {first second : Stage} {log late : List Event}

theorem painted_nil (absent : ∀ picture, first ≠ .live picture) : Painted id [] first where
  unborn _ := by simp
  live picture same := absurd same (absent picture)
  moves := List.isChain_singleton _

theorem moves_append_mute (mute : ∀ event ∈ late, event.movedTo? id = none) :
    (log ++ late).filterMap (Event.movedTo? id) = log.filterMap (Event.movedTo? id) := by
  rw [List.filterMap_append, List.filterMap_eq_nil_iff.mpr mute, List.append_nil]

/-- The last position on the way of a view is the one that the log paints. -/
theorem getLast?_moves (id : ViewId) (log : List Event) :
    (({} : Point) :: log.filterMap (Event.movedTo? id)).getLast? =
      some (Picture.ofLog id log).position := by
  rw [List.getLast?_cons]
  rfl

/-- **Every step of a life is painted.** -/
theorem Leads.painted (leads : Leads id first late second) (painted : Painted id log first) :
    Painted id (log ++ late) second := by
  -- an event that is no move leaves the way as it is
  have still : (∀ event ∈ late, event.movedTo? id = none) →
      ({} :: (log ++ late).filterMap (Event.movedTo? id)).IsChain (· ≠ ·) := fun mute => by
    rw [moves_append_mute mute]
    exact painted.moves
  cases leads with
  | @elsewhere _ event other =>
    have mute : ∀ told ∈ [event], told.Mute id := by
      simpa using Event.mute_of_other other
    refine ⟨fun same told member => ?_, fun picture same => ?_, still fun told member =>
      (mute told member).movedTo?⟩
    · rcases List.mem_append.mp member with before | last
      · exact painted.unborn same told before
      · rwa [List.mem_singleton.mp last]
    · rw [Picture.ofLog_append_mute log mute]
      exact painted.live picture same
  | created =>
    have mute : ∀ told ∈ log ++ [.viewCreated id], told.Mute id := by
      intro told member
      rcases List.mem_append.mp member with before | last
      · exact Event.mute_of_other (painted.unborn rfl told before)
      · rw [List.mem_singleton.mp last]
        exact ⟨rfl, rfl, rfl⟩
    refine ⟨by simp, fun picture same => ?_, still (by simp [Event.movedTo?])⟩
    obtain rfl := Stage.live.inj same
    exact (Picture.ofLog_append_mute [] mute).symm
  | @noticed picture event about passing =>
    have mute : ∀ told ∈ [event], told.Mute id := by
      simpa using Event.mute_of_passing id passing
    refine ⟨by simp, fun other same => ?_, still fun told member => (mute told member).movedTo?⟩
    rw [Picture.ofLog_append_mute log mute]
    exact painted.live other same
  | mapped | unmapped | resized =>
    refine ⟨by simp, fun other same => ?_, still (by simp [Event.movedTo?])⟩
    obtain rfl := Stage.live.inj same
    rw [Picture.ofLog_append, painted.live _ rfl]
    simp [lastTold, List.findSome?_cons, Event.movedTo?, Event.sizedTo?, Event.shown?]
  | @moved picture position away =>
    refine ⟨by simp, fun other same => ?_, ?_⟩
    · obtain rfl := Stage.live.inj same
      rw [Picture.ofLog_append, painted.live _ rfl]
      simp [lastTold, Event.movedTo?, Event.sizedTo?, Event.shown?]
    · rw [painted.live _ rfl] at away
      have told : (log ++ [Event.moved id position]).filterMap (Event.movedTo? id) =
          log.filterMap (Event.movedTo? id) ++ [position] := by
        simp [Event.movedTo?]
      rw [told, ← List.cons_append, List.isChain_append, getLast?_moves]
      refine ⟨painted.moves, List.isChain_singleton _, ?_⟩
      simpa using away.symm
  | destroyed => exact ⟨by simp, by simp, still (by simp [Event.movedTo?])⟩
  | forgotten => exact ⟨by simp, by simp, still (by simp)⟩

theorem Passage.painted (passage : Passage id first log second)
    (absent : ∀ picture, first ≠ .live picture) : Painted id log second := by
  induction passage with
  | refl => exact painted_nil absent
  | tail _ leads ih => exact leads.painted ih

end Painting

/-- What a report says of a view, as far as the desktop can know it. -/
def ViewReport.picture (report : ViewReport) : Picture :=
  { position := report.position, size := report.size, mapped := report.mapped }

namespace Scenario

open Shell

/-- The log of a scenario paints every view at the stage where it is in the end. -/
theorem replay_painted (scenario : Scenario) (settings : Settings)
    (short : scenario.steps.length < 2 ^ 32 - 1) (id : ViewId) :
    Painted id (scenario.replay settings).events
      (((scenario.start settings).runFrom 0 scenario.steps).1.stageOf id) := by
  obtain ⟨log, events, passages⟩ :=
    (Reached.start scenario settings).runFrom_narrates 0 scenario.steps (by omega)
  have told : (scenario.replay settings).events = log := events
  have passage := passages id
  rw [stageOf_absent rfl] at passage
  rw [told]
  refine passage.painted fun picture => ?_
  split <;> exact nofun

/-- **The desktop's picture of a view is a likeness.** In fewer steps than there are serials, every view
of a report is where its last move left it, with the size of its last mapping or resizing, and visible
exactly if it was last mapped and not unmapped. Its surface is there and as visible as the view, and a
visible view has the size of its surface. No view is told to move to where it was told to be before. -/
theorem views_match_their_log (scenario : Scenario) (settings : Settings)
    (short : scenario.steps.length < 2 ^ 32 - 1) :
    (∀ report ∈ (scenario.replay settings).views,
      report.picture = .ofLog report.view (scenario.replay settings).events ∧
        ∃ surface, ((scenario.start settings).runFrom 0 scenario.steps).1.surfaces.get?
            report.surface = some surface ∧
          report.mapped = surface.mapped ∧
            (report.mapped → report.size = surface.contentSize)) ∧
      ∀ id, ({} :: (scenario.replay settings).events.filterMap (Event.movedTo? id)).IsChain
        (· ≠ ·) := by
  have painted := replay_painted scenario settings short
  refine ⟨fun report member => ?_, fun id => (painted id).moves⟩
  have reached := (Reached.start scenario settings).runFrom 0 scenario.steps
  have listed : report ∈ (Report.of ((scenario.start settings).runFrom 0 scenario.steps).1
    ((scenario.start settings).runFrom 0 scenario.steps).2).views := member
  generalize ((scenario.start settings).runFrom 0 scenario.steps).1 = shell at *
  obtain ⟨⟨id, view⟩, entry, rfl⟩ := List.mem_map.mp listed
  have live : shell.views.get? id = some view := Table.get?_eq_some_iff.mpr entry
  obtain ⟨surface, present, -⟩ := reached.sound.view_fits live
  obtain ⟨mapped, size⟩ := reached.inStep view.surface id view surface live rfl present
  refine ⟨(painted id).live _ (stageOf_live live), surface, present, mapped, fun visible => ?_⟩
  exact size (mapped.symm.trans visible)

/-- A window that is moved before it is shown, and shown smaller than it was asked to be. -/
def movedUnseen : Scenario where
  steps :=
    [ .newToplevel ⟨1⟩, .moveResize ⟨1⟩ { x := 10, y := 0 } { width := 50, height := 50 },
      .ack ⟨1⟩ none, .commit ⟨1⟩ (some { width := 40, height := 50 }) false none ]

/-- The commit that maps it releases the move as well, and the desktop is told both. -/
theorem views_match_their_log_movedUnseen :
    ∃ report ∈ (movedUnseen.replay {}).views, report.view = ⟨1⟩ ∧
      (Picture.ofLog ⟨1⟩ (movedUnseen.replay {}).events).position = { x := 20, y := 0 } ∧
      report.position = { x := 20, y := 0 } ∧ report.size = { width := 40, height := 50 } ∧
      report.mapped = true := by
  obtain ⟨likeness, -⟩ := views_match_their_log movedUnseen {} (by decide)
  obtain ⟨report, views⟩ : ∃ report, (movedUnseen.replay {}).views = [report] := ⟨_, rfl⟩
  have member : report ∈ (movedUnseen.replay {}).views := views ▸ List.mem_singleton_self report
  obtain ⟨same, -⟩ := likeness report member
  have shows : (movedUnseen.replay {}).views.map (fun report =>
      (report.view, report.position, report.size, report.mapped)) =
        [(⟨1⟩, { x := 20, y := 0 }, { width := 40, height := 50 }, true)] := by decide
  simp only [views, List.map_cons, List.map_nil, List.cons.injEq, Prod.mk.injEq] at shows
  obtain ⟨⟨view, position, size, mapped⟩, -⟩ := shows
  rw [view] at same
  refine ⟨report, member, view, ?_, position, size, mapped⟩
  rw [← same, ← position]
  rfl

end Scenario

end WindowShell
