/-
**The rounds of a surface.**

A surface goes through rounds. One opens when the surface is created, and the next one with each commit
that unmaps it. In every round the exchange starts over: the client has to be sent a configure, to
acknowledge that very configure, and only then may it attach a buffer. The surface itself remembers no
history, only whether it is configured and what is acknowledged and in flight. That is enough to tell
what happened in the round:

* `Surface.Backed`, `Reached.backed`: a surface is visible exactly while it holds a buffer, and then it
  is configured;
* `round_exists`, `Opens.blank`: every surface is in a round, which it began with a clean slate;
* `Traced.perform`, `Round.traced`: what the surface remembers sums up what happened in its round;
* `buffer_needs_acknowledged_configure`: so a buffer may be attached exactly if a configure was sent and
  acknowledged in the round.
-/

import Mathlib.Data.List.Induction
import WindowShell.Proofs.Visibility

namespace WindowShell

namespace Surface

/-! ### Buffers and visibility -/

/-- A surface is visible exactly while it holds a buffer, and then it is configured. -/
structure Backed (surface : Surface) : Prop where
  mapped : surface.mapped = surface.buffer.isSome
  configured : surface.mapped → surface.configured

theorem latchAck_configured (surface : Surface) :
    surface.latchAck.configured = (surface.configured || surface.acked.isSome) := by
  unfold latchAck
  split
  · next idle => simp [idle]
  · next acked => simp [acked]

theorem latchAck_configureSerial {surface : Surface} {configure : Configure}
    (acked : surface.acked = some configure) :
    surface.latchAck.configureSerial = some configure.serial := by
  unfold latchAck
  split
  · next idle =>
    rw [acked] at idle
    cases idle
  · next also =>
    obtain rfl := Option.some.inj (acked.symm.trans also)
    rfl

/-- A commit that is in time finds or makes the surface configured if it ends with a buffer. -/
theorem Backed.latched {surface : Surface} (backed : surface.Backed) {commit : Commit}
    (early : surface.attachesTooEarly commit = false)
    (holds : (surface.latchAck.latchContent commit).buffer.isSome) :
    (surface.latchAck.latchContent commit).configured := by
  rw [latchContent_configured, latchAck_configured]
  rw [latchContent, latchAck_buffer] at holds
  cases change : commit.buffer with
  | keep =>
    rw [change] at holds
    have mapped : surface.mapped := backed.mapped.trans holds
    simp [backed.configured mapped]
  | attach size => simpa [attachesTooEarly, change, Option.isNone_eq_false_iff,
      Bool.or_eq_true, or_iff_not_imp_left] using early
  | remove =>
    rw [change] at holds
    cases holds

theorem settle_unmapped {surface after : Surface} (settled : surface.settle = (after, .unmapped)) :
    surface.mapped ∧ surface.buffer = none := by
  unfold settle at settled
  split at settled
  · next lost => simpa using lost
  · split at settled
    · cases settled
    · split at settled <;> cases settled

theorem Backed.commit {surface after : Surface} {commit : Commit} {effect : CommitEffect}
    (backed : surface.Backed) (done : surface.commit commit = .ok (after, effect)) :
    after.Backed := by
  obtain ⟨-, early, settled⟩ := commit_ok done
  have latched := backed.latched early
  rcases settle_cases settled with ⟨rfl, rfl⟩ | ⟨-, held, rfl⟩
  · have lost := (settle_unmapped settled).2
    exact ⟨by simp [lost], fun visible => by cases visible⟩
  · constructor
    · cases holds : (surface.latchAck.latchContent commit).buffer.isSome with
      | true => simp only [latched holds, Bool.and_true, Bool.or_true]
      | false =>
        have hidden : (surface.latchAck.latchContent commit).mapped = false := by
          by_contra visible
          rw [held (by simpa using visible)] at holds
          cases holds
        simp [hidden]
    · intro visible
      have holds : (surface.latchAck.latchContent commit).buffer.isSome := by
        rcases Bool.or_eq_true_iff.mp visible with before | now
        · exact held before
        · exact (Bool.and_eq_true_iff.mp now).2
      exact latched holds

/-- A commit unmaps a surface exactly if the surface was visible before and is not any more. -/
theorem effect_unmapped_iff {surface after : Surface} {commit : Commit} {effect : CommitEffect}
    (done : surface.commit commit = .ok (after, effect)) :
    effect = .unmapped ↔ surface.mapped ∧ ¬ after.mapped := by
  have tells := commit_effect done
  cases effect <;> simp_all [CommitEffect.Tells]

/-- A surface of which the client has acknowledged nothing yet. -/
structure Blank (surface : Surface) : Prop where
  unconfigured : surface.configured = false
  idle : surface.inflight = []
  unacked : surface.acked = none

theorem blank_of_unmapped {surface after : Surface} {commit : Commit}
    (done : surface.commit commit = .ok (after, .unmapped)) : after.Blank := by
  obtain ⟨-, -, settled⟩ := commit_ok done
  rcases settle_cases settled with ⟨-, rfl⟩ | ⟨other, -⟩
  · exact ⟨rfl, rfl, latchAck_acked surface⟩
  · exact absurd rfl other

end Surface

namespace Shell

section Backing

variable {shell : Shell} {id : SurfaceId} {act : Act} {sent : List Configure}

theorem Turn.backed {before : Option Surface} {after : Surface}
    (turn : Turn shell id act before (some after) sent)
    (backed : ∀ surface, before = some surface → surface.Backed) : after.Backed := by
  cases turn with
  | rest => exact backed after rfl
  | window => exact ⟨rfl, fun visible => by cases visible⟩
  | popup => exact ⟨rfl, fun visible => by cases visible⟩
  | declareMin size done | declareMax size done =>
    have backed := backed _ rfl
    rw [Surface.changeToplevel_ok done]
    exact ⟨backed.mapped, backed.configured⟩
  | ack raw done =>
    have backed := backed _ rfl
    obtain ⟨_, _, -, rfl⟩ := Surface.ack_ok done
    exact ⟨backed.mapped, backed.configured⟩
  | commit commit done => exact (backed _ rfl).commit done
  | invite commit done due =>
    have backed := (backed _ rfl).commit done
    obtain ⟨-, -, rfl, -⟩ := Surface.schedule_some due
    exact ⟨backed.mapped, backed.configured⟩
  | agree =>
    have backed := backed _ rfl
    exact ⟨backed.mapped, backed.configured⟩
  | propose asked due =>
    have backed := backed _ rfl
    obtain ⟨-, -, rfl, -⟩ := Surface.schedule_some due
    exact ⟨backed.mapped, backed.configured⟩

/-- **Every surface is visible exactly while it holds a buffer.** -/
theorem Reached.backed {count : Nat} {shell : Shell} (reached : Reached count shell) :
    ∀ id surface, shell.surfaces.get? id = some surface → surface.Backed := by
  induction reached with
  | fresh => exact fun _ _ found => by cases found
  | act act reached ih =>
    intro id surface found
    obtain ⟨sent, -, turn⟩ := perform_turn reached.roled act id
    rw [found] at turn
    exact turn.backed (ih id)

end Backing

/-! ### Rounds -/

/-- An act opens a round of a surface: it creates the surface, or it is a commit that unmaps it. -/
def Opens (shell : Shell) (id : SurfaceId) (act : Act) : Prop :=
  ∃ after, (shell.perform act).shell.surfaces.get? id = some after ∧
    (shell.surfaces.get? id = none ∨
      ∃ commit before, act = .request (.commit id commit) ∧
        shell.surfaces.get? id = some before ∧ before.mapped ∧ ¬ after.mapped)

/-- No act of a run opens a round. -/
def Unbroken (shell : Shell) (id : SurfaceId) : List Act → Prop
  | [] => True
  | act :: acts => ¬ shell.Opens id act ∧ (shell.perform act).shell.Unbroken id acts

/-- **The round of a surface** at the end of a run: what came after the last act that opened one. -/
structure Round (start : Shell) (id : SurfaceId) (acts front round : List Act) : Prop where
  split : acts = front ++ round
  opened : ∃ earlier opening, front = earlier ++ [opening] ∧
    (start.performAll earlier).Opens id opening
  unbroken : (start.performAll front).Unbroken id round

theorem unbroken_append {shell : Shell} {id : SurfaceId} {acts more : List Act} :
    shell.Unbroken id (acts ++ more) ↔
      shell.Unbroken id acts ∧ (shell.performAll acts).Unbroken id more := by
  induction acts generalizing shell with
  | nil => simp [Unbroken]
  | cons act acts ih => rw [List.cons_append, Unbroken, Unbroken, ih, performAll_cons, and_assoc]

theorem unbroken_snoc {shell : Shell} {id : SurfaceId} {acts : List Act} {act : Act} :
    shell.Unbroken id (acts ++ [act]) ↔
      shell.Unbroken id acts ∧ ¬ (shell.performAll acts).Opens id act := by
  rw [unbroken_append, Unbroken, Unbroken, and_true]

/-- A surface that is there after an act was there before, unless the act opened its round. -/
theorem opens_or_present {shell : Shell} {id : SurfaceId} {act : Act} {after : Surface}
    (found : (shell.perform act).shell.surfaces.get? id = some after) :
    shell.Opens id act ∨ ∃ before, shell.surfaces.get? id = some before := by
  cases present : shell.surfaces.get? id with
  | none => exact .inl ⟨after, found, .inl present⟩
  | some before => exact .inr ⟨before, rfl⟩

/-- **Every surface is in a round**, if it was not there at the start. -/
theorem round_exists {start : Shell} {id : SurfaceId} (absent : start.surfaces.get? id = none)
    (acts : List Act) {surface : Surface}
    (found : (start.performAll acts).surfaces.get? id = some surface) :
    ∃ front round, Round start id acts front round := by
  induction acts using List.reverseRecOn generalizing surface with
  | nil =>
    rw [performAll_nil, absent] at found
    cases found
  | append_singleton acts act ih =>
    by_cases opens : (start.performAll acts).Opens id act
    · exact ⟨acts ++ [act], [], (List.append_nil _).symm, ⟨acts, act, rfl, opens⟩, trivial⟩
    · rw [performAll_append] at found
      obtain ⟨before, present⟩ := (opens_or_present found).resolve_left opens
      obtain ⟨front, round, rfl, opened, unbroken⟩ := ih present
      refine ⟨front, round ++ [act], List.append_assoc _ _ _, opened, ?_⟩
      rw [performAll_append] at opens
      exact unbroken_snoc.mpr ⟨unbroken, opens⟩

/-- A round begins with a clean slate. -/
theorem Opens.blank {shell : Shell} {id : SurfaceId} {act : Act} {after : Surface}
    (roled : shell.Roled) (opens : shell.Opens id act)
    (found : (shell.perform act).shell.surfaces.get? id = some after) : after.Blank := by
  obtain ⟨sent, -, turn⟩ := perform_turn roled act id
  obtain ⟨state, same, why⟩ := opens
  obtain rfl := Option.some.inj (found.symm.trans same)
  rw [found] at turn
  rcases why with absent | ⟨commit, before, rfl, present, visible, hidden⟩
  · rw [absent] at turn
    cases turn with
    | window => exact ⟨rfl, rfl, rfl⟩
    | popup => exact ⟨rfl, rfl, rfl⟩
  · rw [present] at turn
    cases turn with
    | rest => exact absurd visible hidden
    | commit commit done =>
      obtain rfl := (Surface.effect_unmapped_iff done).mpr ⟨visible, hidden⟩
      exact Surface.blank_of_unmapped done
    | invite commit done due =>
      obtain ⟨-, -, rfl, -⟩ := Surface.schedule_some due
      cases (Surface.effect_unmapped_iff done).mpr ⟨visible, hidden⟩
    | agree asked => cases asked
    | propose asked => cases asked

/-- The beginning of a round is a round. -/
theorem Round.front {start : Shell} {id : SurfaceId} {acts front before after : List Act}
    (current : Round start id acts front (before ++ after)) :
    Round start id (front ++ before) front before :=
  ⟨rfl, current.opened, (unbroken_append.mp current.unbroken).1⟩

/-- **What holds of a surface along its round**: it holds of a clean slate, and every act keeps it that
opens no round. -/
theorem Round.induction {start : Shell} {id : SurfaceId} {acts front round : List Act}
    {surface : Surface} {motive : List Act → Surface → Prop}
    (current : Round start id acts front round) (roled : start.Roled)
    (found : (start.performAll acts).surfaces.get? id = some surface)
    (blank : ∀ surface : Surface, surface.Blank → motive [] surface)
    (continues : ∀ round act surface after,
      ((start.performAll front).performAll round).Roled →
      ((start.performAll front).performAll round).surfaces.get? id = some surface →
      ¬ ((start.performAll front).performAll round).Opens id act →
      (((start.performAll front).performAll round).perform act).shell.surfaces.get? id = some after →
      motive round surface → motive (round ++ [act]) after) :
    motive round surface := by
  obtain ⟨rfl, ⟨earlier, opening, rfl, opens⟩, unbroken⟩ := current
  rw [performAll_append start] at found
  generalize settled : start.performAll (earlier ++ [opening]) = opened at found unbroken continues
  have openedRoled : opened.Roled := settled ▸ performAll_roled roled _
  induction round using List.reverseRecOn generalizing surface with
  | nil =>
    rw [performAll_append] at settled
    subst settled
    exact blank surface (opens.blank (performAll_roled roled earlier) found)
  | append_singleton round act ih =>
    obtain ⟨unbroken, unopened⟩ := unbroken_snoc.mp unbroken
    rw [performAll_append] at found
    obtain ⟨before, present⟩ := (opens_or_present found).resolve_left unopened
    exact continues round act before surface (performAll_roled openedRoled round) present unopened
      found (ih present unbroken)

/-! ### What happens in a round -/

/-- At some point of a run something happens, which may depend on what came before. -/
def Sometime (acts : List Act) (event : List Act → Act → Prop) : Prop :=
  ∃ before act after, acts = before ++ act :: after ∧ event before act

/-- What was sent to a surface is never taken back. -/
theorem sentTo_performAll {shell : Shell} (roled : shell.Roled) (id : SurfaceId) (acts : List Act) :
    ∃ sent, (shell.performAll acts).sentTo id = shell.sentTo id ++ sent := by
  induction acts using List.reverseRecOn with
  | nil => exact ⟨[], (List.append_nil _).symm⟩
  | append_singleton acts act ih =>
    obtain ⟨earlier, same⟩ := ih
    obtain ⟨sent, grows, -⟩ := perform_turn (performAll_roled roled acts) act id
    exact ⟨earlier ++ sent, by
      rw [performAll_append, performAll_cons, performAll_nil, grows, same, List.append_assoc]⟩

/-- In a run a configure is sent to a surface. -/
def Told (shell : Shell) (id : SurfaceId) (acts : List Act) (configure : Configure) : Prop :=
  Sometime acts fun before act =>
    ((shell.performAll before).perform act).shell.sentTo id =
      (shell.performAll before).sentTo id ++ [configure]

/-- In a run a configure is sent to a surface, and the client acknowledges that very configure. -/
def Acknowledged (shell : Shell) (id : SurfaceId) (acts : List Act) (configure : Configure) : Prop :=
  Sometime acts fun before act =>
    act = .request (.ack id configure.serial.val) ∧
      ((shell.performAll before).perform act).fault = none ∧ shell.Told id before configure

/-- In a run a configure is sent to a surface and acknowledged, and a commit puts it in place. -/
def TakenUp (shell : Shell) (id : SurfaceId) (acts : List Act) (configure : Configure) : Prop :=
  Sometime acts fun before act =>
    (∃ commit after, act = .request (.commit id commit) ∧
      ((shell.performAll before).perform act).fault = none ∧
      ((shell.performAll before).perform act).shell.surfaces.get? id = some after ∧
        after.configureSerial = some configure.serial) ∧ shell.Acknowledged id before configure

theorem sometime_snoc {acts : List Act} {act : Act} {event : List Act → Act → Prop} :
    Sometime (acts ++ [act]) event ↔ Sometime acts event ∨ event acts act := by
  constructor
  · rintro ⟨before, first, after, same, happens⟩
    rcases List.eq_nil_or_concat after with rfl | ⟨after, last, rfl⟩
    · obtain ⟨rfl, rfl⟩ := List.append_singleton_inj.mp same
      exact .inr happens
    · rw [List.concat_eq_append, ← List.cons_append, ← List.append_assoc] at same
      obtain ⟨rfl, rfl⟩ := List.append_singleton_inj.mp same
      exact .inl ⟨before, first, after, rfl, happens⟩
  · rintro (⟨before, first, after, rfl, happens⟩ | happens)
    · exact ⟨before, first, after ++ [act], by simp, happens⟩
    · exact ⟨acts, act, [], rfl, happens⟩

/-- **What a surface remembers sums up what happened in its round.** -/
structure Traced (opened : Shell) (id : SurfaceId) (round : List Act) (surface : Surface) : Prop where
  /-- What is in flight was sent in the round. -/
  inflight : ∀ configure ∈ surface.inflight, opened.Told id round configure
  acked : ∀ configure, surface.acked = some configure → opened.Acknowledged id round configure
  configured : surface.configured → ∃ configure, opened.TakenUp id round configure
  /-- Once something was acknowledged, the surface is configured or is about to be. -/
  answered : (∃ configure, opened.Acknowledged id round configure) →
    surface.configured ∨ surface.acked.isSome

section Tracing

variable {shell opened : Shell} {id : SurfaceId} {round : List Act} {act : Act}
  {surface after : Surface}

theorem traced_of_blank (blank : surface.Blank) : Traced opened id [] surface where
  inflight := by simp [blank.idle]
  acked := by simp [blank.unacked]
  configured := by simp [blank.unconfigured]
  answered := by
    rintro ⟨configure, before, first, later, nothing, -⟩
    simp at nothing

theorem ack_of_ok {raw : UInt32} (present : shell.surfaces.get? id = some surface)
    (done : surface.ack raw = .ok after) :
    shell.perform (.request (.ack id raw)) = (shell.putSurface id after).accept := by
  rw [perform, handle]
  exact changeSurface_of_ok (SurfaceM.ack_careful raw) present done

theorem ack_of_error {raw : UInt32} {cause : Refusal}
    (present : shell.surfaces.get? id = some surface) (refused : surface.ack raw = .error cause) :
    shell.perform (.request (.ack id raw)) = shell.reject (.refused id cause) := by
  rw [perform, handle]
  exact changeSurface_of_error (SurfaceM.ack_careful raw) present refused

theorem ack_fault (present : shell.surfaces.get? id = some surface) (raw : UInt32) :
    (shell.perform (.request (.ack id raw))).fault = none ↔ ∃ after, surface.ack raw = .ok after := by
  cases done : surface.ack raw with
  | ok after => simp [ack_of_ok present done, accept]
  | error cause => simp [ack_of_error present done, reject]

theorem commit_fault (present : shell.surfaces.get? id = some surface) (commit : Commit) :
    (shell.perform (.request (.commit id commit))).fault =
      match surface.commit commit with
      | .ok _ => none
      | .error cause => some (.refused id cause) := by
  rw [perform, handle]
  cases done : surface.commit commit with
  | ok result => rw [commit_of_ok present done, accept]
  | error cause => rw [commit_of_error present done, reject]

/-- A commit that is carried out is one that the surface takes. -/
theorem commit_of_accepted {commit : Commit} (present : shell.surfaces.get? id = some surface)
    (accepted : (shell.perform (.request (.commit id commit))).fault = none) :
    ∃ latched effect, surface.commit commit = .ok (latched, effect) := by
  rw [commit_fault present] at accepted
  split at accepted
  · next found done => exact ⟨found.1, found.2, done⟩
  · cases accepted

/-- A commit that is carried out leaves the surface as it was committed, perhaps with one more configure
in flight. -/
theorem commit_stored {commit : Commit} {effect : CommitEffect}
    (present : shell.surfaces.get? id = some surface)
    (done : surface.commit commit = .ok (after, effect)) :
    ∃ inflight, (shell.perform (.request (.commit id commit))).shell.surfaces.get? id =
      some { after with inflight } := by
  obtain ⟨inflight, stored⟩ := followed_stored shell id after effect
  exact ⟨inflight, by rw [perform, handle, commit_of_ok present done, accept, emit_surfaces, stored]⟩

/-- An acknowledgement that is accepted waits for a commit. -/
theorem acked_of_accepted (present : shell.surfaces.get? id = some surface) {raw : UInt32}
    (accepted : (shell.perform (.request (.ack id raw))).fault = none)
    (found : (shell.perform (.request (.ack id raw))).shell.surfaces.get? id = some after) :
    after.acked.isSome := by
  obtain ⟨acked, done⟩ := (ack_fault present raw).mp accepted
  rw [ack_of_ok present done, accept, putSurface_surface] at found
  obtain rfl := Option.some.inj found
  obtain ⟨_, _, -, rfl⟩ := Surface.ack_ok done
  rfl

/-- What one act adds to what a surface remembers, if the act opens no round. -/
structure Advance (shell : Shell) (id : SurfaceId) (act : Act) (surface after : Surface) : Prop where
  inflight : ∀ configure ∈ after.inflight, configure ∈ surface.inflight ∨
    (shell.perform act).shell.sentTo id = shell.sentTo id ++ [configure]
  acked : ∀ configure, after.acked = some configure → surface.acked = some configure ∨
    act = .request (.ack id configure.serial.val) ∧ (shell.perform act).fault = none ∧
      configure ∈ surface.inflight
  configured : after.configured → surface.configured ∨
    ∃ configure commit, surface.acked = some configure ∧ act = .request (.commit id commit) ∧
      (shell.perform act).fault = none ∧ after.configureSerial = some configure.serial
  kept : surface.configured ∨ surface.acked.isSome → after.configured ∨ after.acked.isSome

/-- Where nothing is acknowledged or committed, only what is in flight may grow. -/
theorem Advance.quiet (configured : after.configured = surface.configured)
    (acked : after.acked = surface.acked)
    (inflight : ∀ configure ∈ after.inflight, configure ∈ surface.inflight ∨
      (shell.perform act).shell.sentTo id = shell.sentTo id ++ [configure]) :
    Advance shell id act surface after where
  inflight := inflight
  acked configure same := .inl (acked ▸ same)
  configured yes := .inl (configured ▸ yes)
  kept before := by rwa [configured, acked]

theorem Advance.ack {raw : UInt32} (present : shell.surfaces.get? id = some surface)
    (done : surface.ack raw = .ok after) :
    Advance shell id (.request (.ack id raw)) surface after := by
  have accepted := (ack_fault present raw).mpr ⟨after, done⟩
  obtain ⟨passed, configure, rest, split, named, rfl⟩ := Surface.ack_split done
  have inside : ∀ sent ∈ configure :: rest, sent ∈ surface.inflight := fun sent member =>
    split ▸ List.mem_append_right passed member
  refine ⟨fun sent member => .inl (inside sent (List.mem_cons_of_mem _ member)), ?_,
    fun configured => .inl configured, fun _ => .inr rfl⟩
  rintro sent same
  obtain rfl := Option.some.inj same
  exact .inr ⟨by rw [named], accepted, inside _ List.mem_cons_self⟩

/-- A commit that does not unmap puts in place what was acknowledged. -/
theorem Advance.commit {commit : Commit} {effect : CommitEffect}
    (present : shell.surfaces.get? id = some surface)
    (done : surface.commit commit = .ok (after, effect)) (stays : effect ≠ .unmapped) :
    Advance shell id (.request (.commit id commit)) surface after := by
  have accepted : (shell.perform (.request (.commit id commit))).fault = none := by
    rw [commit_fault present, done]
  obtain ⟨-, -, settled⟩ := Surface.commit_ok done
  obtain ⟨rfl, -⟩ | ⟨-, -, rfl⟩ := Surface.settle_cases settled
  · exact absurd rfl stays
  have configured : surface.latchAck.configured = (surface.configured || surface.acked.isSome) :=
    surface.latchAck_configured
  constructor
  · intro sent member
    exact .inl (by simpa using member)
  · intro sent same
    simp at same
  · intro latched
    cases acked : surface.acked with
    | none => exact .inl (by simpa [configured, acked] using latched)
    | some configure =>
      exact .inr ⟨configure, commit, rfl, rfl, accepted, Surface.latchAck_configureSerial acked⟩
  · intro before
    exact .inl (by simpa [configured] using before)

/-- A configure is sent on top of what an act does otherwise. -/
theorem Advance.told {configure : Configure}
    (advance : Advance shell id act surface after)
    (sent : (shell.perform act).shell.sentTo id = shell.sentTo id ++ [configure]) :
    Advance shell id act surface { after with inflight := after.inflight ++ [configure] } := by
  refine ⟨fun other member => ?_, advance.acked, advance.configured, advance.kept⟩
  rcases List.mem_append.mp member with old | new
  · exact advance.inflight other old
  · rw [List.mem_singleton.mp new]
    exact .inr sent

/-- **One act**, unless it opens a round. -/
theorem perform_advance (roled : shell.Roled) (present : shell.surfaces.get? id = some surface)
    (continues : ¬ shell.Opens id act)
    (found : (shell.perform act).shell.surfaces.get? id = some after) :
    Advance shell id act surface after := by
  obtain ⟨sent, grows, turn⟩ := perform_turn roled act id
  have stays : ∀ {commit : Commit} {latched : Surface} {effect : CommitEffect},
      act = .request (.commit id commit) → surface.commit commit = .ok (latched, effect) →
      latched.mapped = after.mapped → effect ≠ .unmapped := by
    rintro commit latched effect rfl done same rfl
    obtain ⟨visible, hidden⟩ := (Surface.effect_unmapped_iff done).mp rfl
    exact continues ⟨after, found, .inr ⟨commit, surface, rfl, present, visible, same ▸ hidden⟩⟩
  rw [present, found] at turn
  cases turn with
  | rest => exact .quiet rfl rfl fun _ => .inl
  | declareMin size done | declareMax size done =>
    rw [Surface.changeToplevel_ok done]
    exact .quiet rfl rfl fun _ => .inl
  | ack raw done => exact .ack present done
  | commit commit done => exact .commit present done (stays rfl done rfl)
  | invite commit done due =>
    obtain ⟨-, -, rfl, -⟩ := Surface.schedule_some due
    exact .told (.commit present done (stays rfl done rfl)) grows
  | agree => exact .quiet rfl rfl fun _ => .inl
  | propose asked due =>
    obtain ⟨-, -, rfl, -⟩ := Surface.schedule_some due
    exact .told (.quiet rfl rfl fun _ => .inl) grows

/-- **What a surface remembers keeps summing up its round.** -/
theorem Traced.perform (traced : Traced opened id round surface)
    (roled : (opened.performAll round).Roled)
    (present : (opened.performAll round).surfaces.get? id = some surface)
    (continues : ¬ (opened.performAll round).Opens id act)
    (found : ((opened.performAll round).perform act).shell.surfaces.get? id = some after) :
    Traced opened id (round ++ [act]) after := by
  have advance := perform_advance roled present continues found
  constructor
  · intro configure member
    exact sometime_snoc.mpr ((advance.inflight configure member).imp_left (traced.inflight configure))
  · intro configure same
    refine sometime_snoc.mpr ((advance.acked configure same).imp (traced.acked configure) ?_)
    rintro ⟨names, accepted, member⟩
    exact ⟨names, accepted, traced.inflight configure member⟩
  · intro configured
    rcases advance.configured configured with before | ⟨configure, commit, acked, names, taken⟩
    · obtain ⟨configure, takenUp⟩ := traced.configured before
      exact ⟨configure, sometime_snoc.mpr (.inl takenUp)⟩
    · refine ⟨configure, sometime_snoc.mpr (.inr ⟨?_, traced.acked configure acked⟩)⟩
      exact ⟨commit, after, names, taken.1, found, taken.2⟩
  · rintro ⟨configure, acknowledged⟩
    rcases sometime_snoc.mp acknowledged with before | ⟨rfl, accepted, -⟩
    · exact advance.kept (traced.answered ⟨configure, before⟩)
    · exact .inr (acked_of_accepted present accepted found)

/-- **What a surface remembers sums up its round.** -/
theorem Round.traced {start : Shell} {acts front : List Act} (roled : start.Roled)
    (current : Round start id acts front round)
    (found : (start.performAll acts).surfaces.get? id = some surface) :
    Traced (start.performAll front) id round surface :=
  current.induction roled found (fun _ => traced_of_blank)
    fun _ _ _ _ roled present continues found traced => traced.perform roled present continues found

end Tracing

/-! ### Buffers -/

theorem TakenUp.acknowledged {shell : Shell} {id : SurfaceId} {acts : List Act}
    {configure : Configure} (takenUp : shell.TakenUp id acts configure) :
    shell.Acknowledged id acts configure := by
  obtain ⟨_, act, after, rfl, -, before, first, later, rfl, happens⟩ := takenUp
  exact ⟨before, first, later ++ act :: after, by simp, happens⟩

/-- A surface is configured, or about to be, exactly if a configure was acknowledged in its round. -/
theorem Traced.answered_iff {opened : Shell} {id : SurfaceId} {round : List Act} {surface : Surface}
    (traced : Traced opened id round surface) :
    surface.configured ∨ surface.acked.isSome ↔ ∃ configure, opened.Acknowledged id round configure := by
  refine ⟨fun ready => ?_, traced.answered⟩
  rcases ready with configured | acked
  · obtain ⟨configure, takenUp⟩ := traced.configured configured
    exact ⟨configure, takenUp.acknowledged⟩
  · obtain ⟨configure, same⟩ := Option.isSome_iff_exists.mp acked
    exact ⟨configure, traced.acked configure same⟩

/-- The only reason to refuse a buffer is that the surface is not configured and not about to be. -/
theorem attach_fault {shell : Shell} {id : SurfaceId} {surface : Surface} {commit : Commit}
    {size : Size} (roled : shell.Roled) (present : shell.surfaces.get? id = some surface)
    (attaches : commit.buffer = .attach size) :
    (shell.perform (.request (.commit id commit))).fault =
      if surface.configured ∨ surface.acked.isSome then none
      else some (.refused id .unconfiguredBuffer) := by
  have early : surface.attachesTooEarly commit = (!surface.configured && surface.acked.isNone) := by
    simp only [Surface.attachesTooEarly, attaches]
  rw [commit_fault present, Surface.commit_eq, if_neg (roled id surface present), early]
  cases surface.configured <;> cases surface.acked <;> rfl

/-- **A buffer needs an acknowledged configure.** Every surface of a run is in a round. A commit that
attaches a buffer to it is carried out if the client acknowledged a configure in that round which was
sent to the surface in that round, and refused otherwise. So for a surface that is visible or holds a
buffer a configure was sent, acknowledged and taken up in its round; and it is visible exactly while it
holds a buffer. -/
theorem buffer_needs_acknowledged_configure (settings : Settings) (seats : Table SeatId SeatMode)
    (refusals : Nat) (acts : List Act) (id : SurfaceId) {surface : Surface}
    (present : ((fresh settings seats refusals).performAll acts).surfaces.get? id = some surface) :
    (∃ front round, Round (fresh settings seats refusals) id acts front round) ∧
      (∀ front round, Round (fresh settings seats refusals) id acts front round →
        (∀ (commit : Commit) (size : Size), commit.buffer = .attach size →
          ((∃ configure, ((fresh settings seats refusals).performAll front).Acknowledged id round
              configure) →
            (((fresh settings seats refusals).performAll acts).perform
              (.request (.commit id commit))).fault = none) ∧
          ((¬ ∃ configure, ((fresh settings seats refusals).performAll front).Acknowledged id round
              configure) →
            (((fresh settings seats refusals).performAll acts).perform
              (.request (.commit id commit))).fault = some (.refused id .unconfiguredBuffer))) ∧
        (surface.mapped ∨ surface.buffer.isSome →
          ∃ configure, ((fresh settings seats refusals).performAll front).TakenUp id round
            configure)) ∧
      (surface.mapped ↔ surface.buffer.isSome) := by
  have roled := fresh_roled settings seats refusals
  have reached := (Reached.fresh 0 settings seats refusals).performAll acts
  have backed := reached.backed id surface present
  refine ⟨round_exists rfl acts present, fun front round current => ?_, by rw [backed.mapped]⟩
  have traced := current.traced roled present
  refine ⟨fun commit size attaches => ?_, fun holds => ?_⟩
  · rw [attach_fault reached.roled present attaches, ← traced.answered_iff]
    exact ⟨fun ready => if_pos ready, fun unready => if_neg unready⟩
  · rw [backed.mapped, or_self, ← backed.mapped] at holds
    exact traced.configured (backed.configured holds)

/-- A window that is shown, hidden, and sent its first configure again, which its client has not
acknowledged. -/
def shownAgain : List Act :=
  [ .request (.newToplevel ⟨1⟩), .request (.commit ⟨1⟩ {}), .request (.ack ⟨1⟩ 1),
    .request (.commit ⟨1⟩ { buffer := .attach { width := 100, height := 100 } }),
    .request (.commit ⟨1⟩ { buffer := .remove }), .request (.commit ⟨1⟩ {}) ]

/-- The acknowledgement from before it was hidden does not count in its round; the one of the second
configure does. -/
theorem buffer_needs_acknowledged_configure_shownAgain :
    (∃ front round, Round (fresh { pingOnCreate := false } .empty 0) ⟨1⟩ shownAgain front round ∧
      ¬ ∃ configure, ((fresh { pingOnCreate := false } .empty 0).performAll front).Acknowledged ⟨1⟩
        round configure) ∧
    ∃ front round,
      Round (fresh { pingOnCreate := false } .empty 0) ⟨1⟩ (shownAgain ++ [.request (.ack ⟨1⟩ 2)])
        front round ∧
      ∃ configure, ((fresh { pingOnCreate := false } .empty 0).performAll front).Acknowledged ⟨1⟩
        round configure := by
  let attach : Commit := { buffer := .attach { width := 100, height := 100 } }
  constructor
  · obtain ⟨⟨front, round, current⟩, each, -⟩ :=
      buffer_needs_acknowledged_configure { pingOnCreate := false } .empty 0 shownAgain ⟨1⟩ rfl
    refine ⟨front, round, current, fun acknowledged => ?_⟩
    have accepted := ((each front round current).1 attach _ rfl).1 acknowledged
    exact absurd accepted (by decide)
  · obtain ⟨⟨front, round, current⟩, each, -⟩ :=
      buffer_needs_acknowledged_configure { pingOnCreate := false } .empty 0
        (shownAgain ++ [.request (.ack ⟨1⟩ 2)]) ⟨1⟩ rfl
    refine ⟨front, round, current, ?_⟩
    by_contra unanswered
    have refused := ((each front round current).1 attach _ rfl).2 unanswered
    exact absurd refused (by decide)

end Shell

end WindowShell
