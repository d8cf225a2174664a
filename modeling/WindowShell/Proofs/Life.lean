/-
**The life of a view, as the desktop is told.**

A view has not been created yet, or it is live, or it is gone. What the desktop is told takes it from one
stage to the next: it is created, it becomes visible and stops being visible in turns, and it is
destroyed while it is hidden. In between it is moved, damaged and resized, and its client has wishes. A
view may also be forgotten without a word. Nothing is told of a view before it is created or after it is
gone:

* `Leads`, `Passage`: the stages, and what is told between them;
* `Passage.told_nothing`: nothing is told of a view that is gone;
* `Biography`, `Passage.biography`: what all of that says about the order of the events.
-/

import Mathlib.Data.List.Basic
import WindowShell.Desktop

namespace WindowShell

/-- What the desktop knows of a view. -/
structure Picture where
  position : Point := {}
  size : Size := {}
  mapped : Bool := false

/-- How far a view has come. -/
inductive Stage
  | unborn
  | live (picture : Picture)
  | gone

/-- An event that changes nothing about its view. -/
def Event.Passing : Event → Prop
  | .beginMove _ _ | .beginResize _ _ _ | .damaged _ | .fullyDamaged _ | .maximizeRequested _ _
  | .fullscreenRequested _ _ _ => True
  | _ => False

/-- An event that takes a certain view from one stage of its life to the next. -/
def Event.isMilestone (id : ViewId) : Event → Bool
  | .viewCreated view | .mapped view _ | .unmapped view | .destroyed view => view = id
  | _ => false

/-- **One step in the life of a view**, and what the desktop is told of it. -/
inductive Leads (id : ViewId) : Stage → List Event → Stage → Prop
  | elsewhere (stage : Stage) {event : Event} (other : event.view ≠ id) :
      Leads id stage [event] stage
  | created : Leads id .unborn [.viewCreated id] (.live {})
  | noticed (picture : Picture) {event : Event} (about : event.view = id) (passing : event.Passing) :
      Leads id (.live picture) [event] (.live picture)
  | mapped {picture : Picture} (hidden : picture.mapped = false) (size : Size) :
      Leads id (.live picture) [.mapped id size] (.live { picture with size, mapped := true })
  | unmapped {picture : Picture} (visible : picture.mapped = true) :
      Leads id (.live picture) [.unmapped id] (.live { picture with mapped := false })
  | moved {picture : Picture} {position : Point} (away : position ≠ picture.position) :
      Leads id (.live picture) [.moved id position] (.live { picture with position })
  | resized {picture : Picture} (visible : picture.mapped = true) (size : Size) :
      Leads id (.live picture) [.damaged id, .resized id size] (.live { picture with size })
  | destroyed {picture : Picture} (hidden : picture.mapped = false) :
      Leads id (.live picture) [.destroyed id] .gone
  | forgotten (picture : Picture) : Leads id (.live picture) [] .gone

/-- **A stretch of the life of a view.** -/
inductive Passage (id : ViewId) : Stage → List Event → Stage → Prop
  | refl (stage : Stage) : Passage id stage [] stage
  | tail {first second third : Stage} {early late : List Event}
      (passage : Passage id first early second) (leads : Leads id second late third) :
      Passage id first (early ++ late) third

namespace Passage

variable {id : ViewId} {first second third : Stage} {early late log : List Event}

theorem single (leads : Leads id first log second) : Passage id first log second := by
  have passage := (Passage.refl first).tail leads
  rwa [List.nil_append] at passage

theorem trans (passage : Passage id first early second) (onward : Passage id second late third) :
    Passage id first (early ++ late) third := by
  induction onward with
  | refl => rwa [List.append_nil]
  | tail _ leads ih =>
    rw [← List.append_assoc]
    exact ih.tail leads

/-- Events of other views change nothing. -/
theorem elsewhere (stage : Stage) (others : ∀ event ∈ log, event.view ≠ id) :
    Passage id stage log stage := by
  induction log with
  | nil => exact .refl stage
  | cons event log ih =>
    obtain ⟨other, later⟩ := List.forall_mem_cons.mp others
    exact (single (.elsewhere stage other)).trans (ih later)

/-- **Nothing is told of a view that is gone.** -/
theorem told_nothing (passage : Passage id .gone log second) : ∀ event ∈ log, event.view ≠ id := by
  have stays : second = .gone ∧ ∀ event ∈ log, event.view ≠ id := by
    induction passage with
    | refl => exact ⟨rfl, by simp⟩
    | tail _ leads ih =>
      obtain ⟨rfl, silent⟩ := ih
      cases leads with
      | elsewhere _ other =>
        refine ⟨rfl, fun event member => ?_⟩
        rcases List.mem_append.mp member with before | last
        · exact silent event before
        · rwa [List.mem_singleton.mp last]
  exact stays.2

end Passage

/-! ### The order of the events -/

/-- Something holds of every event of a log and what was told before it. -/
def Throughout (log : List Event) (holds : List Event → Event → Prop) : Prop :=
  ∀ front event back, log = front ++ event :: back → holds front event

theorem Throughout.snoc {log : List Event} {holds : List Event → Event → Prop} {last : Event}
    (before : Throughout log holds) (holdsLast : holds log last) :
    Throughout (log ++ [last]) holds := by
  intro front event back same
  rcases List.eq_nil_or_concat back with rfl | ⟨back, final, rfl⟩
  · obtain ⟨rfl, rfl⟩ := List.append_singleton_inj.mp same
    exact holdsLast
  · rw [List.concat_eq_append, ← List.cons_append, ← List.append_assoc] at same
    obtain ⟨rfl, -⟩ := List.append_singleton_inj.mp same
    exact before front event back rfl

/-- A view is visible, as far as a log tells: it was mapped, and not unmapped since. -/
def Showing (id : ViewId) (log : List Event) : Prop :=
  ∃ front size back, log = front ++ .mapped id size :: back ∧ .unmapped id ∉ back

/-- What has to come before an event of a view. -/
structure Prepared (id : ViewId) (front : List Event) (event : Event) : Prop where
  created : event = .viewCreated id ∨ .viewCreated id ∈ front
  alive : .destroyed id ∉ front
  resized : ∀ size, event = .resized id size →
    Showing id front ∧ ∃ earlier, front = earlier ++ [.damaged id]

/-- The milestones of a view that became visible with these sizes, one after the other, and is hidden. -/
def milestones (id : ViewId) (sizes : List Size) : List Event :=
  .viewCreated id :: sizes.flatMap fun size => [.mapped id size, .unmapped id]

/-- **What a log tells of the life of a view.** -/
structure Biography (id : ViewId) (log : List Event) : Prop where
  /-- It is created, mapped and unmapped in turns, and destroyed while it is unmapped. -/
  milestones : ∃ sizes, log.filter (Event.isMilestone id) <+: milestones id sizes ++ [.destroyed id]
  /-- Nothing is told of it too early or too late. -/
  prepared : Throughout log fun front event => event.view = id → Prepared id front event

section Recording

variable {id : ViewId} {first second : Stage} {log late : List Event} {picture : Picture}

theorem Event.view_of_milestone {event : Event} (milestone : event.isMilestone id) :
    event.view = id := by
  cases event <;> simp_all [isMilestone, view]

/-- How a stage of the life of a view shows in the log. -/
def Stage.Recorded (id : ViewId) (log : List Event) : Stage → Prop
  | .unborn => ∀ event ∈ log, event.view ≠ id
  | .live picture =>
    picture.mapped = false ∧ (∃ sizes, log.filter (Event.isMilestone id) = milestones id sizes) ∨
      picture.mapped = true ∧ ∃ sizes size,
        log.filter (Event.isMilestone id) = milestones id sizes ++ [.mapped id size]
  | .gone => ∃ sizes, log.filter (Event.isMilestone id) <+: milestones id sizes ++ [.destroyed id]

theorem milestones_concat (id : ViewId) (sizes : List Size) (size : Size) :
    milestones id (sizes ++ [size]) = milestones id sizes ++ [.mapped id size] ++ [.unmapped id] := by
  simp [milestones]

/-- A live view has been created and not been destroyed. -/
theorem recorded_live (recorded : (Stage.live picture).Recorded id log) :
    .viewCreated id ∈ log ∧ .destroyed id ∉ log := by
  have inside : ∀ event, event.isMilestone id →
      (event ∈ log ↔ event ∈ log.filter (Event.isMilestone id)) := fun event milestone => by
    rw [List.mem_filter, and_iff_left milestone]
  rw [inside _ (by simp [Event.isMilestone]), inside (.destroyed id) (by simp [Event.isMilestone])]
  rcases recorded with ⟨-, sizes, same⟩ | ⟨-, sizes, size, same⟩ <;>
    rw [same] <;> simp [milestones]

/-- A visible view was mapped and not unmapped since. -/
theorem recorded_showing (recorded : (Stage.live picture).Recorded id log)
    (visible : picture.mapped = true) : Showing id log := by
  rcases recorded with ⟨hidden, -⟩ | ⟨-, sizes, size, same⟩
  · rw [visible] at hidden
    cases hidden
  obtain ⟨front, rest, rfl, -, last⟩ := List.filter_eq_append_iff.mp same
  obtain ⟨between, back, rfl, -, -, rests⟩ := List.filter_eq_cons_iff.mp last
  refine ⟨front ++ between, size, back, (List.append_assoc _ _ _).symm, fun member => ?_⟩
  exact List.filter_eq_nil_iff.mp rests _ member (by simp [Event.isMilestone])

theorem recorded_congr (same : (log ++ late).filter (Event.isMilestone id) =
      log.filter (Event.isMilestone id)) {other : Picture} (level : other.mapped = picture.mapped)
    (recorded : (Stage.live picture).Recorded id log) :
    (Stage.live other).Recorded id (log ++ late) := by
  rw [Stage.Recorded, same, level]
  exact recorded

/-- Every step of a life leaves its record. -/
theorem Leads.recorded (leads : Leads id first late second) (recorded : first.Recorded id log) :
    second.Recorded id (log ++ late) := by
  cases leads with
  | @elsewhere _ event other =>
    have silent : event.isMilestone id = false := by
      by_contra milestone
      exact other (Event.view_of_milestone (by simpa using milestone))
    cases first with
    | unborn =>
      intro told member
      rcases List.mem_append.mp member with before | last
      · exact recorded told before
      · rwa [List.mem_singleton.mp last]
    | live picture => exact recorded_congr (by simp [silent]) rfl recorded
    | gone => simpa [Stage.Recorded, silent] using recorded
  | created =>
    have before : log.filter (Event.isMilestone id) = [] :=
      List.filter_eq_nil_iff.mpr fun event member milestone =>
        recorded event member (Event.view_of_milestone milestone)
    refine .inl ⟨rfl, [], ?_⟩
    rw [List.filter_append, before]
    simp [Event.isMilestone, milestones]
  | @noticed _ event about passing =>
    have silent : event.isMilestone id = false := by
      cases event <;> first | rfl | cases passing
    exact recorded_congr (by simp [silent]) rfl recorded
  | mapped hidden size =>
    obtain ⟨-, sizes, same⟩ := recorded.resolve_right (by simp [hidden])
    refine .inr ⟨rfl, sizes, size, ?_⟩
    rw [List.filter_append, same]
    simp [Event.isMilestone]
  | unmapped visible =>
    obtain ⟨-, sizes, size, same⟩ := recorded.resolve_left (by simp [visible])
    refine .inl ⟨rfl, sizes ++ [size], ?_⟩
    rw [List.filter_append, same, milestones_concat]
    simp [Event.isMilestone]
  | moved away => exact recorded_congr (by simp [Event.isMilestone]) rfl recorded
  | resized visible size => exact recorded_congr (by simp [Event.isMilestone]) rfl recorded
  | destroyed hidden =>
    obtain ⟨-, sizes, same⟩ := recorded.resolve_right (by simp [hidden])
    refine ⟨sizes, ?_⟩
    rw [List.filter_append, same]
    simp [Event.isMilestone]
  | forgotten picture =>
    rw [List.append_nil]
    rcases recorded with ⟨-, sizes, same⟩ | ⟨-, sizes, size, same⟩
    · exact ⟨sizes, same ▸ List.prefix_append _ _⟩
    · refine ⟨sizes ++ [size], ?_⟩
      rw [same, milestones_concat, List.append_assoc (_ ++ _)]
      exact List.prefix_append _ _

/-- An event of a live view is prepared, unless it creates or resizes it. -/
theorem recorded_prepared (recorded : (Stage.live picture).Recorded id log) {event : Event}
    (other : ∀ size, event ≠ .resized id size) : Prepared id log event where
  created := .inr (recorded_live recorded).1
  alive := (recorded_live recorded).2
  resized size same := absurd same (other size)

/-- Every step of a life is prepared by what was told before. -/
theorem Leads.prepared (leads : Leads id first late second) (recorded : first.Recorded id log)
    (before : Throughout log fun front event => event.view = id → Prepared id front event) :
    Throughout (log ++ late) fun front event => event.view = id → Prepared id front event := by
  cases leads with
  | elsewhere stage other => exact before.snoc fun about => absurd about other
  | created =>
    refine before.snoc fun _ => ⟨.inl rfl, fun destroyed => ?_, fun size other => by cases other⟩
    exact recorded _ destroyed rfl
  | @noticed _ event about passing =>
    refine before.snoc fun _ => recorded_prepared recorded ?_
    rintro size rfl
    cases passing
  | mapped | unmapped | moved | destroyed =>
    exact before.snoc fun _ => recorded_prepared recorded (by simp)
  | @resized picture visible size =>
    have still : (Stage.live picture).Recorded id (log ++ [.damaged id]) :=
      (Leads.noticed picture rfl (show (Event.damaged id).Passing from trivial)).recorded recorded
    have damaged : Throughout (log ++ [.damaged id]) _ :=
      before.snoc fun _ => recorded_prepared recorded (by simp)
    rw [List.append_cons]
    refine damaged.snoc fun _ => ⟨.inr (recorded_live still).1, (recorded_live still).2, ?_⟩
    exact fun _ _ => ⟨recorded_showing still visible, log, rfl⟩
  | forgotten => rwa [List.append_nil]

/-- A log without a word about a view is the biography of one that was never created. -/
theorem biography_of_silent (silent : ∀ event ∈ log, event.view ≠ id) : Biography id log where
  milestones := by
    refine ⟨[], ?_⟩
    rw [List.filter_eq_nil_iff.mpr fun event member milestone =>
      silent event member (Event.view_of_milestone milestone)]
    exact List.nil_prefix
  prepared front event back same about := by
    refine absurd about (silent event ?_)
    rw [same]
    exact List.mem_append_right _ List.mem_cons_self

/-- **A log that takes a view through its life is its biography.** -/
theorem Passage.biography (passage : Passage id .unborn log second) : Biography id log := by
  have told : second.Recorded id log ∧
      Throughout log fun front event => event.view = id → Prepared id front event := by
    induction passage with
    | refl => exact ⟨by simp [Stage.Recorded], fun front event back same => by simp at same⟩
    | tail _ leads ih => exact ⟨leads.recorded ih.1, leads.prepared ih.1 ih.2⟩
  refine ⟨?_, told.2⟩
  cases second with
  | unborn => exact (biography_of_silent told.1).milestones
  | live picture =>
    have forgets : Leads id (.live picture) [] .gone := .forgotten picture
    have ended := forgets.recorded told.1
    rwa [List.append_nil] at ended
  | gone => exact told.1

end Recording

end WindowShell
