/-
**The first configure of a round.**

In every round somebody has to begin. Either window management asks for a state while the client has not
committed yet, or the client commits and the commit finds that nothing was sent so far and sends the
first configure itself. A surface does not count what it was sent; it only looks whether anything is in
flight, acknowledged or committed. In a round these three are the traces of all that was sent, so no
commit ever sends a second configure:

* `Surface.Primed`, `Turn.primed`: once something is sent, it leaves a trace until the round ends;
* `Surface.needsConfigure_iff`: a commit asks for a configure exactly if there is no trace;
* `Round.invited`: what was sent in a round;
* `commit_invites_once`: when a commit sends a configure, and how few a popup is sent.
-/

import WindowShell.Proofs.Handshake
import WindowShell.Proofs.Rejection

namespace WindowShell

namespace Surface

/-! ### Traces of a configure -/

/-- The client has something to go on: a configure that is in flight, acknowledged or committed. -/
def Primed (surface : Surface) : Prop :=
  surface.inflight ≠ [] ∨ surface.acked.isSome ∨ surface.configured

theorem primed_of_ack {surface after : Surface} {raw : UInt32} (done : surface.ack raw = .ok after) :
    after.Primed := by
  obtain ⟨_, _, -, rfl⟩ := ack_ok done
  exact .inr (.inl rfl)

/-- Latching moves the trace, and leaves none if there was none. -/
theorem primed_latch_iff (surface : Surface) (commit : Commit) :
    (surface.latchAck.latchContent commit).Primed ↔ surface.Primed := by
  simp only [Primed, latchContent_inflight, latchAck_inflight, latchContent_acked, latchAck_acked,
    latchContent_configured, latchAck_configured, Bool.or_eq_true, Option.isSome_none,
    Bool.false_eq_true, false_or]
  rw [or_comm (a := surface.configured = true)]

theorem Primed.commit {surface after : Surface} {commit : Commit} {effect : CommitEffect}
    (primed : surface.Primed) (done : surface.commit commit = .ok (after, effect))
    (stays : effect ≠ .unmapped) : after.Primed := by
  obtain ⟨-, -, settled⟩ := commit_ok done
  obtain ⟨rfl, -⟩ | ⟨-, -, rfl⟩ := settle_cases settled
  · exact absurd rfl stays
  · exact (primed_latch_iff surface commit).mpr primed

theorem settle_needsConfigure_iff {surface : Surface} :
    surface.settle.2 = .needsConfigure ↔
      surface.mapped = false ∧ surface.buffer = none ∧ surface.configured = false ∧
        surface.inflight = [] := by
  unfold settle
  cases surface.mapped <;> cases surface.configured <;> cases surface.buffer <;>
    cases surface.inflight <;> simp

/-- **A commit asks for a configure exactly if the client has nothing to go on.** -/
theorem needsConfigure_iff {surface after : Surface} {commit : Commit} {effect : CommitEffect}
    (backed : surface.Backed) (done : surface.commit commit = .ok (after, effect)) :
    effect = .needsConfigure ↔ effect ≠ .unmapped ∧ ¬ surface.Primed := by
  obtain ⟨-, early, settled⟩ := commit_ok done
  have effect_eq : effect = (surface.latchAck.latchContent commit).settle.2 := by rw [settled]
  constructor
  · rintro rfl
    refine ⟨by simp, fun primed => ?_⟩
    obtain ⟨-, -, unconfigured, idle⟩ := settle_needsConfigure_iff.mp effect_eq.symm
    rcases (primed_latch_iff surface commit).mpr primed with flying | acked | configured
    · exact flying idle
    · simp at acked
    · rw [unconfigured] at configured
      cases configured
  · rintro ⟨-, unprimed⟩
    simp only [Primed, not_or, Decidable.not_not, Bool.not_eq_true, Option.isSome_eq_false_iff,
      Option.isNone_iff_eq_none] at unprimed
    obtain ⟨idle, unacked, unconfigured⟩ := unprimed
    have hidden : surface.mapped = false := by
      by_contra visible
      have configured := backed.configured (by simpa using visible)
      rw [unconfigured] at configured
      cases configured
    have unheld : surface.buffer = none := by
      have same := backed.mapped
      rw [hidden] at same
      simpa using same.symm
    -- nothing was acknowledged, so the commit attaches no buffer either
    have empty : (surface.latchAck.latchContent commit).buffer = none := by
      rw [latchContent, latchAck_buffer, unheld]
      cases change : commit.buffer with
      | keep => rfl
      | remove => rfl
      | attach size => simp [attachesTooEarly, change, unconfigured, unacked] at early
    rw [effect_eq, settle_needsConfigure_iff]
    refine ⟨(latch_mapped surface commit).trans hidden, empty, ?_, ?_⟩
    · rw [latchContent_configured, latchAck_configured, unconfigured, unacked]
      rfl
    · rw [latchContent_inflight, latchAck_inflight, idle]

end Surface

namespace Shell

section Turns

variable {shell : Shell} {id : SurfaceId} {act : Act} {surface after : Surface}
  {sent : List Configure}

/-- A trace stays, and what is sent leaves one, unless the act unmaps the surface. -/
theorem Turn.primed (turn : Turn shell id act (some surface) (some after) sent)
    (stays : ¬ (surface.mapped ∧ ¬ after.mapped)) (ready : surface.Primed ∨ sent ≠ []) :
    after.Primed := by
  cases turn with
  | rest => exact ready.resolve_right (not_not_intro rfl)
  | declareMin size done | declareMax size done =>
    rw [Surface.changeToplevel_ok done]
    exact ready.resolve_right (not_not_intro rfl)
  | ack raw done => exact Surface.primed_of_ack done
  | commit commit done =>
    exact (ready.resolve_right (not_not_intro rfl)).commit done
      (mt (Surface.effect_unmapped_iff done).mp stays)
  | invite commit done due =>
    obtain ⟨-, -, rfl, -⟩ := Surface.schedule_some due
    exact .inl (List.concat_ne_nil _ _)
  | agree => exact ready.resolve_right (not_not_intro rfl)
  | propose asked due =>
    obtain ⟨-, -, rfl, -⟩ := Surface.schedule_some due
    exact .inl (List.concat_ne_nil _ _)

/-- An act that opens no round leaves a visible surface visible. -/
theorem Turn.stays_mapped (turn : Turn shell id act (some surface) (some after) sent)
    (present : shell.surfaces.get? id = some surface) (continues : ¬ shell.Opens id act)
    (found : (shell.perform act).shell.surfaces.get? id = some after) :
    ¬ (surface.mapped ∧ ¬ after.mapped) := by
  rintro ⟨visible, hidden⟩
  by_cases commits : ∃ commit, act = .request (.commit id commit)
  · obtain ⟨commit, same⟩ := commits
    exact continues ⟨after, found, .inr ⟨commit, surface, same, present, visible, hidden⟩⟩
  · rw [(turn.content (not_exists.mp commits)).1] at hidden
    exact hidden visible

/-- Only a window is asked for a state. -/
theorem isToplevel_of_asked {change : ToplevelState → ToplevelState}
    (asked : shell.asked? id act = some change) (present : shell.surfaces.get? id = some surface) :
    surface.isToplevel := by
  unfold asked? at asked
  split at asked
  · cases asked
  · split at asked
    · cases asked
    · next window =>
      obtain ⟨-, there, role⟩ := window?_eq_some.mp window
      split at asked
      · next same =>
        rw [same, present] at there
        obtain rfl := Option.some.inj there
        exact Surface.isToplevel_iff.mpr ⟨_, role⟩
      · cases asked

/-- A popup stays a popup, and it is sent a configure only if it has nothing to go on. -/
theorem Turn.told_popup (turn : Turn shell id act (some surface) (some after) sent)
    (present : shell.surfaces.get? id = some surface) (backed : surface.Backed)
    (popup : after.isPopup) :
    surface.isPopup ∧ (sent ≠ [] → sent.length = 1 ∧ ¬ surface.Primed) := by
  have bare : ∀ {role : Role}, role.parent?.isSome → role.bare = surface.role.bare →
      surface.isPopup := fun popup same => by
    rwa [Surface.isPopup, ← Role.parent?_bare, ← same, Role.parent?_bare]
  have asks : ∀ {change : ToplevelState → ToplevelState}, shell.asked? id act = some change →
      ¬ surface.isPopup := fun asked popup => by
    obtain ⟨toplevel, role⟩ := Surface.isToplevel_iff.mp (isToplevel_of_asked asked present)
    rw [Surface.isPopup, role] at popup
    cases popup
  cases turn with
  | rest => exact ⟨popup, fun told => absurd rfl told⟩
  | declareMin size done | declareMax size done =>
    exact ⟨bare popup (Surface.bare_changeToplevel done), fun told => absurd rfl told⟩
  | ack raw done =>
    exact ⟨bare popup (congrArg Role.bare (Surface.role_ack done)), fun told => absurd rfl told⟩
  | commit commit done => exact ⟨bare popup (Surface.bare_commit done), fun told => absurd rfl told⟩
  | invite commit done due =>
    have same := Surface.bare_commit done
    obtain ⟨-, -, rfl, -⟩ := Surface.schedule_some due
    exact ⟨bare popup same, fun _ =>
      ⟨rfl, ((Surface.needsConfigure_iff backed done).mp rfl).2⟩⟩
  | agree asked => exact absurd (bare popup (Role.bare_mapToplevel _ _)) (asks asked)
  | propose asked due =>
    obtain ⟨-, -, rfl, -⟩ := Surface.schedule_some due
    exact absurd (bare popup (Role.bare_mapToplevel _ _)) (asks asked)

end Turns

/-! ### What is sent in a round -/

section Rounds

variable {start opened : Shell} {id : SurfaceId} {acts front round : List Act} {act : Act}
  {surface after : Surface}

/-- **What was sent in a round left its trace**, and to a popup at most one configure was sent. -/
structure Invited (opened : Shell) (id : SurfaceId) (round : List Act) (surface : Surface) : Prop where
  told : (∃ configure, opened.Told id round configure) → surface.Primed
  popup : surface.isPopup → ∃ sent,
    (opened.performAll round).sentTo id = opened.sentTo id ++ sent ∧
      (sent ≠ [] → sent.length = 1 ∧ surface.Primed)

theorem invited_of_blank : Invited opened id [] surface where
  told := by
    rintro ⟨_, _, _, _, nothing, -⟩
    simp at nothing
  popup _ := ⟨[], (List.append_nil _).symm, fun told => absurd rfl told⟩

theorem Invited.perform (invited : Invited opened id round surface) (backed : surface.Backed)
    (roled : (opened.performAll round).Roled)
    (present : (opened.performAll round).surfaces.get? id = some surface)
    (continues : ¬ (opened.performAll round).Opens id act)
    (found : ((opened.performAll round).perform act).shell.surfaces.get? id = some after) :
    Invited opened id (round ++ [act]) after := by
  obtain ⟨sent, grows, turn⟩ := perform_turn roled act id
  rw [present, found] at turn
  have stays := turn.stays_mapped present continues found
  constructor
  · rintro ⟨configure, told⟩
    refine turn.primed stays ?_
    rcases sometime_snoc.mp told with before | now
    · exact .inl (invited.told ⟨configure, before⟩)
    · rw [grows, List.append_cancel_left_eq] at now
      exact .inr (now ▸ List.cons_ne_nil _ _)
  · intro popup
    obtain ⟨was, alone⟩ := turn.told_popup present backed popup
    obtain ⟨earlier, same, few⟩ := invited.popup was
    refine ⟨earlier ++ sent, ?_, fun told => ?_⟩
    · rw [performAll_append, performAll_cons, performAll_nil, grows, same, List.append_assoc]
    · by_cases silent : sent = []
      · rw [silent, List.append_nil] at told ⊢
        exact ⟨(few told).1, turn.primed stays (.inl (few told).2)⟩
      · obtain ⟨one, unprimed⟩ := alone silent
        have none : earlier = [] := by
          by_contra told
          exact unprimed (few told).2
        rw [none, List.nil_append]
        exact ⟨one, turn.primed stays (.inr silent)⟩

/-- **What was sent in a round left its trace.** -/
theorem Round.invited (current : Round start id acts front round) (roled : start.Roled)
    (backed : ∀ (acts : List Act) surface, (start.performAll acts).surfaces.get? id = some surface →
      surface.Backed)
    (found : (start.performAll acts).surfaces.get? id = some surface) :
    Invited (start.performAll front) id round surface :=
  current.induction roled found (fun _ _ => invited_of_blank)
    fun round _ surface _ roled present continues found invited =>
      invited.perform (backed (front ++ round) surface (by rwa [performAll_append])) roled present
        continues found

/-- Where there is a trace in a round, something was sent. -/
theorem Traced.told (traced : Traced opened id round surface) (primed : surface.Primed) :
    ∃ configure, opened.Told id round configure := by
  have sent : ∀ configure, opened.Acknowledged id round configure → opened.Told id round configure := by
    rintro configure ⟨before, act, after, rfl, -, -, first, sending, later, rfl, happens⟩
    exact ⟨first, sending, later ++ act :: after, by simp, happens⟩
  rcases primed with flying | acked | configured
  · obtain ⟨configure, member⟩ := List.exists_mem_of_ne_nil _ flying
    exact ⟨configure, traced.inflight configure member⟩
  · obtain ⟨configure, acknowledged⟩ := traced.answered_iff.mp (.inr acked)
    exact ⟨configure, sent configure acknowledged⟩
  · obtain ⟨configure, acknowledged⟩ := traced.answered_iff.mp (.inl configured)
    exact ⟨configure, sent configure acknowledged⟩

end Rounds

/-! ### Commits -/

section Commits

variable {shell : Shell} {id : SurfaceId} {surface after : Surface} {commit : Commit}
  {effect : CommitEffect}

/-- A commit that is carried out sends one configure, or nothing. -/
theorem commit_sends (present : shell.surfaces.get? id = some surface)
    (done : surface.commit commit = .ok (after, effect)) :
    effect = .needsConfigure ∧ (∃ serial, shell.Sends (.request (.commit id commit)) id (some serial)) ∨
      effect ≠ .needsConfigure ∧ shell.Sends (.request (.commit id commit)) id none := by
  have outbox : (shell.perform (.request (.commit id commit))).shell.outbox =
      (shell.followed id after effect).outbox := by
    rw [perform, handle, commit_of_ok present done, accept]
    exact outbox_of_clientSide (emit_clientSide _ _ _)
  cases effect with
  | needsConfigure =>
    rcases configure_cases shell id after true with ⟨undue, -⟩ | ⟨configure, _, _, -, stored⟩
    · exact absurd (Surface.schedule_eq_none_iff.mp undue)
        (Surface.duePayload?_force (Surface.commit_roled done))
    · refine .inl ⟨rfl, configure.serial, configure.payload, outbox.trans ?_⟩
      rw [followed, stored]
      rfl
  | settled => exact .inr ⟨by simp, outbox⟩
  | mapped =>
    have quiet := outbox_of_clientSide (emit_clientSide (shell.putSurface id after) id .map)
    exact .inr ⟨by simp, outbox.trans quiet⟩
  | unmapped =>
    have quiet := outbox_of_clientSide (emit_clientSide (shell.putSurface id after) id .unmap)
    exact .inr ⟨by simp, outbox.trans quiet⟩

/-- **When a commit sends a configure**: if it does not unmap the surface, and there is no trace. -/
theorem commit_sends_iff (backed : surface.Backed)
    (present : shell.surfaces.get? id = some surface)
    (accepted : (shell.perform (.request (.commit id commit))).fault = none) :
    ((∃ serial, shell.Sends (.request (.commit id commit)) id (some serial)) ↔
        ¬ shell.Opens id (.request (.commit id commit)) ∧ ¬ surface.Primed) ∧
      ((¬ ∃ serial, shell.Sends (.request (.commit id commit)) id (some serial)) →
        shell.Sends (.request (.commit id commit)) id none) := by
  obtain ⟨after, effect, done⟩ := commit_of_accepted present accepted
  obtain ⟨inflight, found⟩ := commit_stored present done
  have unmaps : shell.Opens id (.request (.commit id commit)) ↔ effect = .unmapped := by
    rw [Surface.effect_unmapped_iff done]
    constructor
    · rintro ⟨state, same, absent | ⟨_, before, -, there, visible, hidden⟩⟩
      · rw [present] at absent
        cases absent
      · obtain rfl := Option.some.inj (found.symm.trans same)
        obtain rfl := Option.some.inj (present.symm.trans there)
        exact ⟨visible, hidden⟩
    · rintro ⟨visible, hidden⟩
      exact ⟨_, found, .inr ⟨commit, surface, rfl, present, visible, hidden⟩⟩
  rw [unmaps, ← ne_eq, ← Surface.needsConfigure_iff backed done]
  rcases commit_sends present done with ⟨first, sends⟩ | ⟨other, quiet⟩
  · exact ⟨⟨fun _ => first, fun _ => sends⟩, fun silent => absurd sends silent⟩
  · refine ⟨⟨?_, fun first => absurd first other⟩, fun _ => quiet⟩
    rintro ⟨serial, sends⟩
    cases quiet.unique sends

/-- A commit that is rejected sends nothing. -/
theorem sends_of_rejected {commit : Commit} (rejected : (shell.handle (.commit id commit)).fault ≠ none) :
    shell.Sends (.request (.commit id commit)) id none :=
  congrArg Shell.outbox (shell.commit_traceless id commit rejected)

end Commits

/-- **Every round has one first configure.** Every surface is in a round. A commit that is carried out
sends the surface a configure exactly if it does not unmap the surface and none was sent there in the
round, and otherwise it sends nothing. So in a round no commit sends anything after a configure, whether
a commit or window management was the first to send one, and a popup is sent at most one configure. -/
theorem commit_invites_once {start : Shell} (begins : Reached 0 start) (acts : List Act)
    (id : SurfaceId) {surface : Surface}
    (present : (start.performAll acts).surfaces.get? id = some surface) :
    (∃ front round, Round start id acts front round) ∧
      ∀ front round, Round start id acts front round →
        (∀ commit, ((start.performAll acts).perform (.request (.commit id commit))).fault = none →
          ((∃ serial, (start.performAll acts).Sends (.request (.commit id commit)) id (some serial)) ↔
              ¬ (start.performAll acts).Opens id (.request (.commit id commit)) ∧
                ¬ ∃ configure, (start.performAll front).Told id round configure) ∧
            ((¬ ∃ serial, (start.performAll acts).Sends (.request (.commit id commit)) id
                (some serial)) →
              (start.performAll acts).Sends (.request (.commit id commit)) id none)) ∧
        (∀ before commit after, round = before ++ .request (.commit id commit) :: after →
          (∃ configure, (start.performAll front).Told id before configure) →
            ((start.performAll front).performAll before).Sends (.request (.commit id commit)) id
              none) ∧
        (surface.isPopup → ∃ sent, (start.performAll acts).sentTo id =
          (start.performAll front).sentTo id ++ sent ∧ sent.length ≤ 1) := by
  have backed : ∀ (acts : List Act) surface,
      (start.performAll acts).surfaces.get? id = some surface → surface.Backed := fun acts =>
    (begins.performAll acts).backed id
  have primed : ∀ {acts front round surface}, Round start id acts front round →
      (start.performAll acts).surfaces.get? id = some surface →
      (surface.Primed ↔ ∃ configure, (start.performAll front).Told id round configure) :=
    fun current found => ⟨(current.traced begins.roled found).told,
      (current.invited begins.roled backed found).told⟩
  refine ⟨round_exists (begins.untouched id) acts present, fun front round current => ⟨?_, ?_, ?_⟩⟩
  · intro commit accepted
    rw [← primed current present]
    exact commit_sends_iff (backed acts surface present) present accepted
  · rintro before commit after rfl told
    rw [← performAll_append]
    by_cases rejected : ((start.performAll (front ++ before)).handle (.commit id commit)).fault ≠ none
    · exact sends_of_rejected rejected
    · rw [Decidable.not_not] at rejected
      cases there : (start.performAll (front ++ before)).surfaces.get? id with
      | none =>
        rw [handle, commit_of_absent there] at rejected
        cases rejected
      | some state =>
        obtain ⟨iff, quiet⟩ := commit_sends_iff (backed _ state there) there rejected
        refine quiet fun sends => ?_
        exact (iff.mp sends).2 ((primed current.front there).mpr told)
  · intro popup
    have split := current.split
    obtain ⟨sent, grows, few⟩ := (current.invited begins.roled backed present).popup popup
    refine ⟨sent, by rw [split, performAll_append, grows], ?_⟩
    by_cases silent : sent = []
    · simp [silent]
    · exact Nat.le_of_eq (few silent).1

/-- A window that is given the focus before its client has committed anything. -/
def askedEarly : List Act := [.request (.newToplevel ⟨1⟩), .call ⟨1⟩ (.activate true)]

/-- The call sends the first configure of the round, and the commit that would have sent it is silent. -/
theorem commit_invites_once_askedEarly :
    ∃ front round, Round (fresh { pingOnCreate := false } .empty 0) ⟨1⟩ askedEarly front round ∧
      (∃ configure, ((fresh { pingOnCreate := false } .empty 0).performAll front).Told ⟨1⟩ round
        configure) ∧
      ((fresh { pingOnCreate := false } .empty 0).performAll askedEarly).Sends
        (.request (.commit ⟨1⟩ {})) ⟨1⟩ none := by
  obtain ⟨⟨front, round, current⟩, each⟩ :=
    commit_invites_once (.fresh 0 { pingOnCreate := false } .empty 0) askedEarly ⟨1⟩ rfl
  have silent : ((fresh { pingOnCreate := false } .empty 0).performAll askedEarly).Sends
      (.request (.commit ⟨1⟩ {})) ⟨1⟩ none := by
    show _ = _
    decide
  refine ⟨front, round, current, ?_, silent⟩
  obtain ⟨iff, -⟩ := (each front round current).1 {} (by decide)
  have continues : ¬ ((fresh { pingOnCreate := false } .empty 0).performAll askedEarly).Opens ⟨1⟩
      (.request (.commit ⟨1⟩ {})) := by
    rintro ⟨_, -, absent | ⟨_, before, -, there, visible, -⟩⟩
    · cases absent
    · cases there
      cases visible
  by_contra untold
  obtain ⟨serial, sends⟩ := iff.mpr ⟨continues, untold⟩
  cases silent.unique sends

end Shell

end WindowShell
