/-
**What a negotiation remembers.**

Requests and commits reach a negotiation in any order, under any serials: a request may be sent under a
smaller serial than an earlier one or under none, and a client may catch up with a serial that nobody
waits for. Of all this two things are left. One is the target of the latest request, with or without a
serial. The other is the serial of the latest request that has one, until a commit has caught up with
exactly that serial. Every answer depends on these two and on nothing that was superseded:

* `Since`, `since_snoc`: something has lasted since some entry of a history;
* `hear_target`, `hear_awaited`: what one notice leaves of the target and of the awaited serial;
* `heard_target`, `heard_awaited`: what a whole history leaves of them;
* `heard_reconcile`, `heard_request`: what a commit and a request release after it;
* `only_the_latest_counts`: when a position is released and which one, and that two histories which end
  alike are answered alike ever after.
-/

import Mathlib.Data.List.Induction
import WindowShell.Negotiation

namespace WindowShell

namespace Negotiation

/-- Something a negotiation is told. -/
inductive Notice
  /-- A target is requested, under the serial of the configure that carries it. -/
  | request (target : Target) (serial : Option Serial)
  /-- The client has committed a size, having caught up with a serial. -/
  | reconcile (acked : Option Serial) (current : Point) (committed : Size)
deriving DecidableEq

namespace Notice

/-- The target that is requested. -/
def target? : Notice → Option Target
  | request target _ => some target
  | reconcile _ _ _ => none

/-- The serial of a request. -/
def sent? : Notice → Option Serial
  | request _ serial => serial
  | reconcile _ _ _ => none

/-- The serial that the client has caught up with. -/
def caught? : Notice → Option Serial
  | request _ _ => none
  | reconcile acked _ _ => acked

end Notice

/-- The negotiation after a notice, with the position it releases. -/
def hear (negotiation : Negotiation) : Notice → Negotiation × Option Point
  | .request target serial => negotiation.request target serial
  | .reconcile acked current committed => negotiation.reconcile acked current committed

/-- What a negotiation answers to notices that follow each other. -/
def answers (negotiation : Negotiation) : List Notice → List (Option Point)
  | [] => []
  | notice :: rest => (negotiation.hear notice).2 :: (negotiation.hear notice).1.answers rest

/-- The negotiation that has heard some notices and nothing else. -/
def heard (notices : List Notice) : Negotiation :=
  notices.foldl (fun negotiation notice => (negotiation.hear notice).1) {}

theorem heard_snoc (notices : List Notice) (notice : Notice) :
    heard (notices ++ [notice]) = ((heard notices).hear notice).1 := by
  rw [heard, List.foldl_append]
  rfl

/-! ### What lasts -/

/-- Some notice began something, and all later ones let it last. -/
def Since (begins lasts : Notice → Prop) (notices : List Notice) : Prop :=
  ∃ earlier notice later, notices = earlier ++ notice :: later ∧ begins notice ∧
    ∀ other ∈ later, lasts other

theorem since_nil {begins lasts : Notice → Prop} : ¬ Since begins lasts [] := by
  rintro ⟨earlier, notice, later, split, -⟩
  simp at split

/-- Something lasts after one more notice if it begins there, or lasted before and still does. -/
theorem since_snoc {begins lasts : Notice → Prop} {notices : List Notice} {notice : Notice} :
    Since begins lasts (notices ++ [notice]) ↔
      begins notice ∨ lasts notice ∧ Since begins lasts notices := by
  constructor
  · rintro ⟨earlier, first, later, split, began, lasted⟩
    rcases List.eq_nil_or_concat later with rfl | ⟨later, last, rfl⟩
    · obtain ⟨-, same⟩ := List.append_inj' split rfl
      exact .inl (List.singleton_inj.mp same ▸ began)
    · rw [List.concat_eq_append, ← List.cons_append, ← List.append_assoc] at split
      obtain ⟨rfl, same⟩ := List.append_inj' split rfl
      obtain rfl := List.singleton_inj.mp same
      exact .inr ⟨lasted notice (by simp), earlier, first, later, rfl, began,
        fun other member => lasted other (by simp [member])⟩
  · rintro (begins | ⟨still, earlier, first, later, rfl, began, lasted⟩)
    · exact ⟨notices, notice, [], rfl, begins, by simp⟩
    · refine ⟨earlier, first, later ++ [notice], by simp, began, fun other member => ?_⟩
      rcases List.mem_append.mp member with old | new
      · exact lasted other old
      · exact List.mem_singleton.mp new ▸ still

/-- The latest request was for a target. -/
def Latest (notices : List Notice) (target : Target) : Prop :=
  Since (fun notice => notice.target? = some target) (fun notice => notice.target? = none) notices

/-- The latest request with a serial had this one, and no later commit has caught up with exactly that
serial. -/
def Unmet (notices : List Notice) (serial : Serial) : Prop :=
  Since (fun notice => notice.sent? = some serial)
    (fun notice => notice.sent? = none ∧ notice.caught? ≠ some serial) notices

theorem latest_snoc {notices : List Notice} {notice : Notice} {target : Target} :
    Latest (notices ++ [notice]) target ↔
      notice.target? = some target ∨ notice.target? = none ∧ Latest notices target :=
  since_snoc

theorem unmet_snoc {notices : List Notice} {notice : Notice} {serial : Serial} :
    Unmet (notices ++ [notice]) serial ↔
      notice.sent? = some serial ∨
        (notice.sent? = none ∧ notice.caught? ≠ some serial) ∧ Unmet notices serial :=
  since_snoc

/-! ### What one notice leaves -/

theorem hear_target (negotiation : Negotiation) (notice : Notice) :
    (negotiation.hear notice).1.target = notice.target?.getD negotiation.target := by
  cases notice with
  | request target serial => exact request_target negotiation target serial
  | reconcile acked current committed => exact reconcile_target negotiation acked current committed

theorem hear_awaited (negotiation : Negotiation) (notice : Notice) (serial : Serial) :
    (negotiation.hear notice).1.awaited = some serial ↔
      notice.sent? = some serial ∨
        (notice.sent? = none ∧ notice.caught? ≠ some serial) ∧ negotiation.awaited = some serial := by
  cases notice with
  | request target sent =>
    show (negotiation.request target sent).1.awaited = _ ↔ _
    rw [request_awaited, Option.or_eq_some_iff]
    simp [Notice.sent?, Notice.caught?]
  | reconcile acked current committed =>
    show (negotiation.reconcile acked current committed).1.awaited = _ ↔ _
    rw [reconcile_awaited]
    by_cases met : negotiation.awaited = acked
    · simp [Notice.sent?, Notice.caught?, met]
    · rw [if_neg met]
      refine ⟨fun waits => .inr ⟨⟨rfl, fun caught => met (waits.trans caught.symm)⟩, waits⟩, ?_⟩
      rintro (sent | ⟨-, waits⟩)
      · cases sent
      · exact waits

/-! ### What a history leaves -/

/-- The target is that of the latest request. -/
theorem heard_target {notices : List Notice} {target : Target} (latest : Latest notices target) :
    (heard notices).target = target := by
  induction notices using List.reverseRecOn with
  | nil => exact absurd latest since_nil
  | append_singleton notices notice ih =>
    rw [heard_snoc, hear_target]
    rcases latest_snoc.mp latest with now | ⟨quiet, before⟩
    · rw [now, Option.getD_some]
    · rw [quiet, Option.getD_none, ih before]

/-- What is awaited is the serial that was not met. -/
theorem heard_awaited (notices : List Notice) (serial : Serial) :
    (heard notices).awaited = some serial ↔ Unmet notices serial := by
  induction notices using List.reverseRecOn with
  | nil =>
    have idle : (heard []).awaited ≠ some serial := by rintro ⟨⟩
    exact iff_of_false idle since_nil
  | append_singleton notices notice ih => rw [heard_snoc, hear_awaited, ih, unmet_snoc]

/-- Without a request nothing is remembered. -/
theorem heard_of_unrequested {notices : List Notice} (unrequested : ∀ target, ¬ Latest notices target) :
    heard notices = {} := by
  induction notices using List.reverseRecOn with
  | nil => rfl
  | append_singleton notices notice ih =>
    cases notice with
    | request target serial => exact absurd (latest_snoc.mpr (.inl rfl)) (unrequested target)
    | reconcile acked current committed =>
      have fresh := ih fun target latest =>
        unrequested target (latest_snoc.mpr (.inr ⟨rfl, latest⟩))
      rw [heard_snoc, fresh]
      rfl

/-- A serial is unmet only where something was requested. -/
theorem Unmet.requested {notices : List Notice} {serial : Serial} (unmet : Unmet notices serial) :
    ∃ target, Latest notices target := by
  by_contra never
  have waits := (heard_awaited notices serial).mpr unmet
  rw [heard_of_unrequested (not_exists.mp never)] at waits
  cases waits

/-- Two histories with the same latest target and the same unmet serial leave the same. -/
theorem heard_congr {notices others : List Notice}
    (latest : ∀ target, Latest notices target ↔ Latest others target)
    (unmet : ∀ serial, Unmet notices serial ↔ Unmet others serial) : heard notices = heard others := by
  by_cases requested : ∃ target, Latest notices target
  · obtain ⟨target, here⟩ := requested
    have targets : (heard notices).target = (heard others).target :=
      (heard_target here).trans (heard_target ((latest target).mp here)).symm
    have waits : (heard notices).awaited = (heard others).awaited := by
      ext serial
      rw [heard_awaited, heard_awaited, unmet]
    calc heard notices = ⟨(heard notices).target, (heard notices).awaited⟩ := rfl
      _ = ⟨(heard others).target, (heard others).awaited⟩ := by rw [targets, waits]
      _ = heard others := rfl
  · have never := not_exists.mp requested
    rw [heard_of_unrequested never,
      heard_of_unrequested fun target there => never target ((latest target).mpr there)]

/-! ### What a history answers -/

theorem heard_reconcile (notices : List Notice) (acked : Option Serial) (current : Point)
    (committed : Size) (point : Point) :
    ((heard notices).hear (.reconcile acked current committed)).2 = some point ↔
      ∃ target awaited caught, Latest notices target ∧ Unmet notices awaited ∧
        acked = some caught ∧ awaited ≤ caught ∧ point = target.positionFor current committed := by
  show ((heard notices).reconcile acked current committed).2 = some point ↔ _
  rw [reconcile_released]
  constructor
  · rintro ⟨awaited, caught, waits, catches, enough, rfl⟩
    have unmet := (heard_awaited notices awaited).mp waits
    obtain ⟨target, latest⟩ := unmet.requested
    exact ⟨target, awaited, caught, latest, unmet, catches, enough, by rw [heard_target latest]⟩
  · rintro ⟨target, awaited, caught, latest, unmet, catches, enough, rfl⟩
    exact ⟨awaited, caught, (heard_awaited notices awaited).mpr unmet, catches, enough,
      by rw [heard_target latest]⟩

theorem heard_request (notices : List Notice) (target : Target) (serial : Option Serial)
    (point : Point) :
    ((heard notices).hear (.request target serial)).2 = some point ↔
      serial = none ∧ (∀ awaited, ¬ Unmet notices awaited) ∧ point = target.position := by
  have idle : (heard notices).awaited = none ↔ ∀ awaited, ¬ Unmet notices awaited := by
    simp only [Option.eq_none_iff_forall_ne_some, ne_eq, heard_awaited]
  show ((heard notices).request target serial).2 = some point ↔ _
  rw [request_released, idle]

/-- **Only the latest counts.** After any history of requests and commits, a negotiation awaits exactly
the unmet serial. A commit releases a position if and only if there is an unmet serial and the client has
caught up with it or a later one; the position is that of the latest target for the present position and
the committed size. A request releases a position if and only if it has no serial and none is unmet; the
position is its own. And histories with the same latest target and the same unmet serial are answered
alike, whatever follows. -/
theorem only_the_latest_counts (notices : List Notice) :
    (∀ serial, (heard notices).awaited = some serial ↔ Unmet notices serial) ∧
      (∀ acked current committed,
        (((heard notices).hear (.reconcile acked current committed)).2.isSome ↔
            ∃ awaited caught, Unmet notices awaited ∧ acked = some caught ∧ awaited ≤ caught) ∧
          ∀ point, ((heard notices).hear (.reconcile acked current committed)).2 = some point →
            ∃ target, Latest notices target ∧ point = target.positionFor current committed) ∧
      (∀ target serial,
        (((heard notices).hear (.request target serial)).2.isSome ↔
            serial = none ∧ ∀ awaited, ¬ Unmet notices awaited) ∧
          ∀ point, ((heard notices).hear (.request target serial)).2 = some point →
            point = target.position) ∧
      ∀ others, (∀ target, Latest notices target ↔ Latest others target) →
        (∀ serial, Unmet notices serial ↔ Unmet others serial) →
          ∀ rest, (heard notices).answers rest = (heard others).answers rest := by
  refine ⟨heard_awaited notices, fun acked current committed => ⟨?_, fun point released => ?_⟩,
    fun target serial => ⟨?_, fun point released => ?_⟩, fun others latest unmet rest => ?_⟩
  · rw [Option.isSome_iff_exists]
    constructor
    · rintro ⟨point, released⟩
      obtain ⟨_, awaited, caught, -, unmet, catches, enough, -⟩ :=
        (heard_reconcile notices acked current committed point).mp released
      exact ⟨awaited, caught, unmet, catches, enough⟩
    · rintro ⟨awaited, caught, unmet, catches, enough⟩
      obtain ⟨target, latest⟩ := unmet.requested
      exact ⟨target.positionFor current committed,
        (heard_reconcile notices acked current committed _).mpr
          ⟨target, awaited, caught, latest, unmet, catches, enough, rfl⟩⟩
  · obtain ⟨target, _, _, latest, -, -, -, same⟩ :=
      (heard_reconcile notices acked current committed point).mp released
    exact ⟨target, latest, same⟩
  · simp only [Option.isSome_iff_exists, heard_request, exists_and_left, exists_eq, and_true]
  · exact ((heard_request notices target serial point).mp released).2.2
  · rw [heard_congr latest unmet]

/-- A request under an earlier serial takes over, and one without a serial takes its place in turn. -/
example :
    answers {}
      [ .request { movesX := true, position := { x := 10 } } (some ⟨7, by decide⟩),
        .request { movesX := true, position := { x := 20 } } (some ⟨5, by decide⟩),
        .request { movesX := true, position := { x := 30 } } none,
        .reconcile (some ⟨6, by decide⟩) {} {}, .reconcile (some ⟨5, by decide⟩) {} {},
        .reconcile (some ⟨7, by decide⟩) {} {} ] =
      [none, none, none, some { x := 30 }, some { x := 30 }, none] := by
  decide

end Negotiation

end WindowShell
