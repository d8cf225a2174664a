/-
**Acknowledgements answer outstanding configures.**

A configure is outstanding in a round once it was sent there, until the client acknowledges it or a newer
one. The surface keeps a queue of what is in flight, from which an acknowledgement takes everything up to
the configure it names, and which is emptied when a round ends. The queue holds exactly what is
outstanding, because it always ascends. So an acknowledgement is accepted exactly if it names an
outstanding configure, the client moves on with every acknowledgement that is accepted, and a commit
catches up with the last of them:

* `Surface.flying_ack_iff`: an acknowledgement leaves in flight what is newer;
* `Tallies.perform`, `Round.tallies`: what is in flight is what is outstanding;
* `acksOf_ascending`: the accepted acknowledgements of a surface ascend;
* `Lifetime.recalls`: what a surface was last committed with;
* `acks_answer_outstanding_configures`: all of it.
-/

import WindowShell.Proofs.History
import WindowShell.Proofs.Invitation

namespace WindowShell

namespace Surface

/-! ### What is in flight -/

/-- A configure with this serial is in flight. -/
def Flying (surface : Surface) (raw : UInt32) : Prop :=
  ∃ configure ∈ surface.inflight, configure.serial.val = raw

/-- What is in flight ascends. -/
theorem InOrder.inflight {surface : Surface} {next : Nat} (ordered : surface.InOrder next) :
    surface.inflight.Pairwise fun first second => first.serial.val < second.serial.val := by
  obtain ⟨ascend, -, -⟩ := List.pairwise_append.mp ordered
  rw [numbers, List.map_append] at ascend
  obtain ⟨-, queue, -⟩ := List.pairwise_append.mp ascend
  rw [List.map_map, List.pairwise_map] at queue
  exact queue.imp fun less => UInt32.lt_iff_toNat_lt.mpr less

/-- What is in flight is older than the serial that is handed out next. -/
theorem InOrder.flying_lt {surface : Surface} {next : Nat} (ordered : surface.InOrder next)
    {raw : UInt32} (flying : surface.Flying raw) : raw.toNat < next := by
  obtain ⟨configure, member, rfl⟩ := flying
  obtain ⟨-, -, before⟩ := List.pairwise_append.mp ordered
  refine before configure.serial.number ?_ next List.mem_cons_self
  exact List.mem_map_of_mem (List.mem_append_right _ (List.mem_map_of_mem member))

/-- What was committed is older than what is acknowledged. -/
theorem InOrder.committed_lt {surface : Surface} {next : Nat} (ordered : surface.InOrder next)
    {caught : Serial} {configure : Configure} (committed : surface.configureSerial = some caught)
    (acked : surface.acked = some configure) : caught < configure.serial := by
  obtain ⟨ascend, -, -⟩ := List.pairwise_append.mp ordered
  simp only [numbers, committed, acked, Option.toList_some, Option.map_some, List.map_append,
    List.map_cons, List.map_nil] at ascend
  exact Serial.lt_iff.mpr (List.rel_of_pairwise_cons ascend (by simp))

/-- What is in flight is newer than what is acknowledged. -/
theorem InOrder.acked_lt {surface : Surface} {next : Nat} (ordered : surface.InOrder next)
    {acked later : Configure} (waiting : surface.acked = some acked)
    (member : later ∈ surface.inflight) : acked.serial < later.serial := by
  obtain ⟨ascend, -, -⟩ := List.pairwise_append.mp ordered
  rw [numbers, List.map_append] at ascend
  obtain ⟨-, -, before⟩ := List.pairwise_append.mp ascend
  refine Serial.lt_iff.mpr (before acked.serial.number ?_ later.serial.number ?_)
  · simp [waiting]
  · exact List.mem_map_of_mem (List.mem_map_of_mem member)

/-- An acknowledgement is accepted exactly if it names a configure in flight. -/
theorem ack_ok_iff {surface : Surface} {raw : UInt32} :
    (∃ after, surface.ack raw = .ok after) ↔ surface.Flying raw := by
  constructor
  · rintro ⟨after, done⟩
    obtain ⟨passed, acked, rest, split, named, -⟩ := ack_split done
    exact ⟨acked, by simp [split], named⟩
  · rintro ⟨configure, member, named⟩
    rw [ack_eq]
    split
    · exact ⟨_, rfl⟩
    · next passed =>
      have skipped := List.dropWhile_eq_nil_iff.mp passed configure member
      simp [named] at skipped

theorem ack_error {surface : Surface} {raw : UInt32} (idle : ¬ surface.Flying raw) :
    surface.ack raw = .error (.invalidSerial raw) := by
  rw [ack_eq]
  split
  · next acked rest found =>
    exact absurd (ack_ok_iff.mp ⟨_, by rw [ack_eq, found]⟩) idle
  · rfl

/-- **An acknowledgement leaves in flight what is newer.** -/
theorem flying_ack_iff {surface after : Surface} {raw : UInt32} {next : Nat}
    (ordered : surface.InOrder next) (done : surface.ack raw = .ok after) (other : UInt32) :
    after.Flying other ↔ surface.Flying other ∧ raw < other := by
  obtain ⟨passed, acked, rest, split, rfl, rfl⟩ := ack_split done
  have ascend := ordered.inflight
  rw [split, List.pairwise_append] at ascend
  obtain ⟨-, queue, older⟩ := ascend
  have newer : ∀ later ∈ rest, acked.serial.val < later.serial.val := fun _ member =>
    List.rel_of_pairwise_cons queue member
  constructor
  · rintro ⟨configure, member, rfl⟩
    exact ⟨⟨configure, by simp [split, member], rfl⟩, newer configure member⟩
  · rintro ⟨⟨configure, member, rfl⟩, later⟩
    rw [split] at member
    rcases List.mem_append.mp member with before | here
    · exact absurd (older configure before acked List.mem_cons_self) (UInt32.lt_asymm later)
    · rcases List.mem_cons.mp here with rfl | after
      · exact absurd later (UInt32.lt_irrefl _)
      · exact ⟨configure, after, rfl⟩

/-- A commit leaves in flight what is in flight, unless it unmaps the surface. -/
theorem inflight_commit {surface after : Surface} {commit : Commit} {effect : CommitEffect}
    (done : surface.commit commit = .ok (after, effect)) :
    after.inflight = if effect = .unmapped then [] else surface.inflight := by
  obtain ⟨-, -, settled⟩ := commit_ok done
  obtain ⟨unmaps, rfl⟩ | ⟨stays, -, rfl⟩ := settle_cases settled
  · rw [if_pos unmaps]
  · rw [if_neg stays, latchContent_inflight, latchAck_inflight]

/-- A commit catches up with what was acknowledged. -/
theorem configureSerial_commit {surface after : Surface} {commit : Commit} {effect : CommitEffect}
    (done : surface.commit commit = .ok (after, effect)) :
    after.configureSerial = (surface.acked.map Configure.serial).or surface.configureSerial ∧
      after.acked = none := by
  obtain ⟨-, -, settled⟩ := commit_ok done
  have same : after.configureSerial = surface.latchAck.configureSerial ∧ after.acked = none := by
    obtain ⟨-, rfl⟩ | ⟨-, -, rfl⟩ := settle_cases settled <;>
      exact ⟨rfl, latchAck_acked surface⟩
  refine ⟨same.1.trans ?_, same.2⟩
  unfold latchAck
  cases surface.acked <;> simp

end Surface

namespace Shell

/-! ### Outstanding configures -/

/-- **A configure is outstanding in a run**: it was sent to a surface, and since then the client has
acknowledged neither it nor a newer one. -/
def Outstanding (shell : Shell) (id : SurfaceId) (acts : List Act) (raw : UInt32) : Prop :=
  ∃ before act after configure, acts = before ++ act :: after ∧
    ((shell.performAll before).perform act).shell.sentTo id =
      (shell.performAll before).sentTo id ++ [configure] ∧
    configure.serial.val = raw ∧
    ∀ acked ∈ ((shell.performAll before).perform act).shell.acksOf id after, acked < raw

section Queue

variable {start shell opened : Shell} {id : SurfaceId} {acts front round life : List Act} {act : Act}
  {surface after : Surface} {sent : List Configure} {raw : UInt32}

/-- An act sends an outstanding configure, or it leaves one outstanding that was so before. -/
theorem outstanding_snoc : shell.Outstanding id (acts ++ [act]) raw ↔
    (shell.Outstanding id acts raw ∧ ∀ acked ∈ (shell.performAll acts).acksOf id [act], acked < raw) ∨
      ∃ configure, ((shell.performAll acts).perform act).shell.sentTo id =
        (shell.performAll acts).sentTo id ++ [configure] ∧ configure.serial.val = raw := by
  constructor
  · rintro ⟨before, first, after, configure, same, sends, named, silent⟩
    rcases List.eq_nil_or_concat after with rfl | ⟨after, last, rfl⟩
    · obtain ⟨rfl, rfl⟩ := List.append_singleton_inj.mp same
      exact .inr ⟨configure, sends, named⟩
    · rw [List.concat_eq_append, ← List.cons_append, ← List.append_assoc] at same
      obtain ⟨rfl, rfl⟩ := List.append_singleton_inj.mp same
      rw [List.concat_eq_append, acksOf_append] at silent
      obtain ⟨early, late⟩ := List.forall_mem_append.mp silent
      refine .inl ⟨⟨before, first, after, configure, rfl, sends, named, early⟩, ?_⟩
      rwa [performAll_append, performAll_cons]
  · rintro (⟨⟨before, first, after, configure, rfl, sends, named, early⟩, late⟩ |
      ⟨configure, sends, named⟩)
    · refine ⟨before, first, after ++ [act], configure, by simp, sends, named, ?_⟩
      rw [acksOf_append, List.forall_mem_append]
      rw [performAll_append, performAll_cons] at late
      exact ⟨early, late⟩
    · exact ⟨acts, act, [], configure, rfl, sends, named, by simp [acksOf, carriedOut]⟩

/-- An acknowledgement sends nothing. -/
theorem Turn.sent_of_ack {before after : Option Surface}
    (turn : Turn shell id (.request (.ack id raw)) before after sent) : sent = [] := by
  cases turn with
  | rest => rfl
  | ack => rfl
  | agree => rfl
  | propose asked => cases asked

/-- What a turn sends joins what is in flight, unless it acknowledges something or ends the round. -/
theorem Turn.inflight (turn : Turn shell id act (some surface) (some after) sent)
    (unnamed : act.ackOf? id = none) (stays : ¬ (surface.mapped ∧ ¬ after.mapped)) :
    after.inflight = surface.inflight ++ sent := by
  have latched : ∀ {commit : Commit} {state : Surface} {effect : CommitEffect},
      surface.commit commit = .ok (state, effect) → ¬ (surface.mapped ∧ ¬ state.mapped) →
      state.inflight = surface.inflight := by
    intro commit state effect done stays
    rw [Surface.inflight_commit done, if_neg (mt (Surface.effect_unmapped_iff done).mp stays)]
  cases turn with
  | rest => simp
  | declareMin size done | declareMax size done =>
    rw [Surface.changeToplevel_ok done]
    simp
  | ack raw => simp [Act.ackOf?] at unnamed
  | commit commit done => rw [latched done stays, List.append_nil]
  | invite commit done due =>
    obtain ⟨-, -, rfl, -⟩ := Surface.schedule_some due
    rw [latched done stays]
  | agree => simp [Surface.setPending]
  | propose asked due =>
    obtain ⟨-, -, rfl, -⟩ := Surface.schedule_some due
    rfl

theorem Turn.sent_cases {before after : Option Surface}
    (turn : Turn shell id act before after sent) : sent = [] ∨ ∃ configure, sent = [configure] := by
  cases turn <;> first | exact .inl rfl | exact .inr ⟨_, rfl⟩

/-- **What is in flight is what is outstanding.** -/
def Tallies (opened : Shell) (id : SurfaceId) (round : List Act) (surface : Surface) : Prop :=
  ∀ raw, surface.Flying raw ↔ opened.Outstanding id round raw

theorem tallies_of_blank (blank : surface.Blank) : Tallies opened id [] surface := by
  intro raw
  simp [Surface.Flying, Outstanding, blank.idle]

theorem Tallies.perform {next : Nat} (tallies : Tallies opened id round surface)
    (ordered : surface.InOrder next) (roled : (opened.performAll round).Roled)
    (present : (opened.performAll round).surfaces.get? id = some surface)
    (continues : ¬ (opened.performAll round).Opens id act)
    (found : ((opened.performAll round).perform act).shell.surfaces.get? id = some after) :
    Tallies opened id (round ++ [act]) after := by
  intro raw
  rw [outstanding_snoc, ← tallies raw]
  generalize opened.performAll round = shell at *
  obtain ⟨sent, grows, turn⟩ := perform_turn roled act id
  rw [present, found] at turn
  simp only [grows, List.append_cancel_left_eq]
  cases named : act.ackOf? id with
  | none =>
    have stays := turn.stays_mapped present continues found
    rw [acksOf_of_unnamed named, Surface.Flying, turn.inflight named stays]
    rcases turn.sent_cases with rfl | ⟨configure, rfl⟩
    · simp [Surface.Flying]
    · simp [Surface.Flying, or_and_right, exists_or]
  | some acked =>
    obtain rfl := Act.ackOf?_eq_some_iff.mp named
    obtain rfl := turn.sent_of_ack
    by_cases accepted : (shell.perform (.request (.ack id acked))).fault = none
    · obtain ⟨state, done⟩ := (ack_fault present acked).mp accepted
      rw [ack_of_ok present done, accept, putSurface_surface] at found
      obtain rfl := Option.some.inj found
      rw [acksOf_of_accepted accepted, named, Surface.flying_ack_iff ordered done]
      simp
    · obtain rfl := Option.some.inj (present.symm.trans (kept_of_rejected accepted found))
      simp [acksOf_of_rejected accepted]

/-- **What is in flight is what is outstanding in the round.** -/
theorem Round.tallies (current : Round start id acts front round) (begins : Reached 0 start)
    (short : acts.length < 2 ^ 32 - 1)
    (found : (start.performAll acts).surfaces.get? id = some surface) :
    Tallies (start.performAll front) id round surface := by
  have within := current.split ▸ short
  refine current.induction (motive := fun round surface =>
    (front ++ round).length < 2 ^ 32 - 1 → Tallies (start.performAll front) id round surface)
    begins.roled found (fun _ blank _ => tallies_of_blank blank) ?_ within
  intro round act surface after roled present continues found tallies short
  rw [← List.append_assoc, List.length_append, List.length_singleton] at short
  have timely := (begins.performAll (front ++ round)).timely (by omega)
  rw [performAll_append] at timely
  exact (tallies (by omega)).perform (timely.surfaces id surface present).ordered roled present
    continues found

/-! ### Accepted acknowledgements ascend -/

/-- What is in flight after an act was in flight before, or takes the next serial. -/
theorem Turn.flying {before : Option Surface} (turn : Turn shell id act before (some after) sent)
    (flying : after.Flying raw) :
    (∃ surface, before = some surface ∧ surface.Flying raw) ∨ raw = shell.serials.next.val := by
  have latched : ∀ {commit : Commit} {surface state : Surface} {effect : CommitEffect},
      surface.commit commit = .ok (state, effect) → state.Flying raw → surface.Flying raw := by
    rintro commit surface state effect done ⟨configure, member, named⟩
    rw [Surface.inflight_commit done] at member
    split at member
    · cases member
    · exact ⟨configure, member, named⟩
  have told : ∀ {surface state : Surface} {force : Bool} {configure : Configure}
      {serials : SerialCounter},
      surface.schedule shell.serials force = some (configure, state, serials) → state.Flying raw →
      surface.Flying raw ∨ raw = shell.serials.next.val := by
    rintro surface state force configure serials due ⟨other, member, rfl⟩
    obtain ⟨-, serial, rfl, -⟩ := Surface.schedule_some due
    rcases List.mem_append.mp member with old | new
    · exact .inl ⟨other, old, rfl⟩
    · rw [List.mem_singleton.mp new, serial]
      exact .inr rfl
  cases turn with
  | rest => exact .inl ⟨after, rfl, flying⟩
  | window | popup =>
    obtain ⟨_, member, -⟩ := flying
    cases member
  | declareMin size done | declareMax size done =>
    rw [Surface.changeToplevel_ok done] at flying
    exact .inl ⟨_, rfl, flying⟩
  | ack raw done =>
    obtain ⟨passed, acked, rest, split, -, rfl⟩ := Surface.ack_split done
    obtain ⟨configure, member, named⟩ := flying
    exact .inl ⟨_, rfl, configure, split ▸ by simp [member], named⟩
  | commit commit done => exact .inl ⟨_, rfl, latched done flying⟩
  | invite commit done due =>
    exact (told due flying).imp_left fun old => ⟨_, rfl, latched done old⟩
  | agree => exact .inl ⟨_, rfl, flying⟩
  | propose asked due => exact (told due flying).imp_left fun old => ⟨_, rfl, old⟩

/-- The acknowledgements of a surface ascend, and what is still to come is newer. -/
structure Ascending (shell : Shell) (id : SurfaceId) (acks : List UInt32) : Prop where
  ascend : acks.Pairwise (· < ·)
  handed : ∀ raw ∈ acks, raw.toNat < shell.serials.next.number
  newer : ∀ surface, shell.surfaces.get? id = some surface → ∀ raw ∈ acks, ∀ other,
    surface.Flying other → raw < other

theorem Ascending.perform {count : Nat} {acks : List UInt32} (ascending : Ascending shell id acks)
    (timely : Timely count shell) (roled : shell.Roled)
    (below : shell.serials.next.number + 1 < 2 ^ 32) :
    Ascending (shell.perform act).shell id (acks ++ shell.acksOf id [act]) := by
  have later := ((perform_posts roled act).number below).1
  -- all but what is acknowledged now
  have old : Ascending (shell.perform act).shell id acks := by
    refine ⟨ascending.ascend, fun raw member => (ascending.handed raw member).trans_le later, ?_⟩
    intro after found raw member other flying
    obtain ⟨sent, -, turn⟩ := perform_turn roled act id
    rw [found] at turn
    rcases turn.flying flying with ⟨surface, present, before⟩ | rfl
    · exact ascending.newer surface present raw member other before
    · exact UInt32.lt_iff_toNat_lt.mpr (ascending.handed raw member)
  by_cases accepted : (shell.perform act).fault = none
  swap
  · rwa [acksOf_of_rejected accepted, List.append_nil]
  cases named : act.ackOf? id with
  | none => rwa [acksOf_of_unnamed named, List.append_nil]
  | some raw =>
    obtain rfl := Act.ackOf?_eq_some_iff.mp named
    obtain ⟨surface, present, after, done⟩ := ack_accepted accepted
    have ordered := (timely.surfaces id surface present).ordered
    have flying : surface.Flying raw := Surface.ack_ok_iff.mp ⟨after, done⟩
    rw [acksOf_of_accepted accepted, named, Option.toList_some]
    constructor
    · refine List.pairwise_append.mpr ⟨ascending.ascend, List.pairwise_singleton _ _, ?_⟩
      intro earlier member _ same
      rw [List.mem_singleton.mp same]
      exact ascending.newer surface present earlier member raw flying
    · refine List.forall_mem_append.mpr ⟨old.handed, List.forall_mem_singleton.mpr ?_⟩
      exact (ordered.flying_lt flying).trans_le later
    · intro state found
      refine List.forall_mem_append.mpr
        ⟨old.newer state found, List.forall_mem_singleton.mpr fun other still => ?_⟩
      rw [ack_of_ok present done, accept, putSurface_surface] at found
      obtain rfl := Option.some.inj found
      exact ((Surface.flying_ack_iff ordered done other).mp still).2

/-- **The accepted acknowledgements of a surface ascend.** -/
theorem acksOf_ascending (begins : Reached 0 start) (id : SurfaceId) (acts : List Act)
    (short : acts.length < 2 ^ 32 - 1) :
    Ascending (start.performAll acts) id (start.acksOf id acts) := by
  induction acts using List.reverseRecOn with
  | nil => exact ⟨.nil, nofun, fun _ _ => nofun⟩
  | append_singleton acts act ih =>
    rw [List.length_append, List.length_singleton] at short
    have reached := begins.performAll acts
    have timely := reached.timely (by omega)
    have counted := timely.counted
    rw [acksOf_append, performAll_append]
    exact (ih (by omega)).perform timely reached.roled (by omega)

/-! ### What is committed -/

/-- What was committed is not undone: what a surface is committed with only gets newer. -/
def CaughtUp (surface after : Surface) : Prop :=
  ∀ caught ∈ surface.configureSerial, ∃ later ∈ after.configureSerial, caught ≤ later

theorem Attends.caughtUp {next : Nat} (attends : shell.Attends id act surface after)
    (ordered : surface.InOrder next) : CaughtUp surface after := by
  have same : after.configureSerial = surface.configureSerial → CaughtUp surface after :=
    fun same caught member => ⟨caught, same ▸ member, le_refl caught⟩
  cases attends with
  | rejected => exact same rfl
  | ack raw accepted done =>
    obtain ⟨_, _, _, -, -, rfl⟩ := Surface.ack_split done
    exact same rfl
  | commit commit accepted done acked kept =>
    rw [(Surface.configureSerial_commit done).1] at kept
    cases waiting : surface.acked with
    | none => exact same (by rw [kept, waiting, Option.map_none, Option.none_or])
    | some configure =>
      rw [waiting, Option.map_some, Option.some_or] at kept
      exact fun caught member => ⟨configure.serial, kept, (ordered.committed_lt member waiting).le⟩
  | aside _ _ _ kept => exact same kept

/-- **What a surface is committed with never gets older** while the surface is there. -/
theorem Lasts.caughtUp {early : Surface} (begins : Reached 0 start)
    (short : (front ++ acts).length < 2 ^ 32 - 1) (lasts : (start.performAll front).Lasts id acts)
    (present : (start.performAll front).surfaces.get? id = some early)
    (found : (start.performAll (front ++ acts)).surfaces.get? id = some surface) :
    CaughtUp early surface := by
  induction acts using List.reverseRecOn generalizing surface with
  | nil =>
    rw [List.append_nil, present] at found
    obtain rfl := Option.some.inj found
    exact fun caught member => ⟨caught, member, le_refl caught⟩
  | append_singleton acts act ih =>
    rw [← List.append_assoc, List.length_append, List.length_singleton] at short
    obtain ⟨lasts, -⟩ := lasts_snoc.mp lasts
    obtain ⟨before, there⟩ := lasts.present
    rw [← performAll_append] at there
    have reached := begins.performAll (front ++ acts)
    have ordered := ((reached.timely (by omega)).surfaces id before there).ordered
    rw [← List.append_assoc, performAll_append] at found
    intro caught member
    obtain ⟨middle, held, enough⟩ := ih (by omega) lasts there caught member
    have attends := perform_attends reached.roled there found
    obtain ⟨later, kept, more⟩ := attends.caughtUp ordered middle held
    exact ⟨later, kept, enough.trans more⟩

/-- What a surface was committed with, and what it would be committed with now, is what was acknowledged
last before the last commit, and what was acknowledged last. -/
structure Recalls (opened : Shell) (id : SurfaceId) (life : List Act) (surface : Surface) : Prop where
  committed : surface.configureSerial.map Serial.val = opened.settledAck? id life
  answered : ((surface.acked.map Configure.serial).or surface.configureSerial).map Serial.val =
    (opened.acksOf id life).getLast?

theorem Recalls.perform (recalls : Recalls opened id acts surface)
    (attends : (opened.performAll acts).Attends id act surface after) :
    Recalls opened id (acts ++ [act]) after := by
  obtain ⟨committed, answered⟩ := recalls
  cases attends with
  | rejected surface rejected =>
    exact ⟨by rw [settledAck?_of_rejected rejected, committed],
      by rw [acksOf_append, acksOf_of_rejected rejected, List.append_nil, answered]⟩
  | ack raw accepted done =>
    obtain ⟨_, acked, _, -, named, rfl⟩ := Surface.ack_split done
    refine ⟨by rw [settledAck?_of_other rfl, committed], ?_⟩
    rw [acksOf_append, acksOf_of_accepted accepted, Act.ackOf?_eq_some_iff.mpr rfl,
      Option.toList_some, List.getLast?_concat, Option.map_some, Option.some_or, Option.map_some,
      named]
  | commit commit accepted done acked kept =>
    obtain ⟨caught, none⟩ := Surface.configureSerial_commit done
    have latest : after.configureSerial.map Serial.val = (opened.acksOf id acts).getLast? := by
      rw [kept, caught, answered]
    refine ⟨latest.trans (settledAck?_of_commit accepted (Act.isCommitOf_iff.mpr ⟨commit, rfl⟩)).symm,
      ?_⟩
    rw [acksOf_append, acksOf_of_unnamed rfl, List.append_nil, ← latest, acked, none, Option.map_none,
      Option.none_or]
  | aside unnamed other acked kept =>
    exact ⟨by rw [settledAck?_of_other other, kept, committed],
      by rw [acksOf_append, acksOf_of_unnamed unnamed, List.append_nil, acked, kept, answered]⟩

/-- **What a surface is committed with** is the last acknowledgement before its last commit. -/
theorem Lifetime.recalls (current : Lifetime start id acts front life) (roled : start.Roled)
    (found : (start.performAll acts).surfaces.get? id = some surface) :
    Recalls (start.performAll front) id life surface :=
  current.induction roled found (fun _ => ⟨rfl, rfl⟩) fun _ _ _ _ roled present found recalls =>
    recalls.perform (perform_attends roled present found)

end Queue

/-- **Acknowledgements answer outstanding configures.** In fewer acts than there are serials, every
surface is in a round, and an acknowledgement is accepted exactly if it names a configure that is
outstanding in that round; otherwise its serial is invalid. So the accepted acknowledgements of a surface
ascend. What the surface is committed with never gets older while the surface is there, and it is what
was acknowledged last before the last commit in the lifetime of the surface. -/
theorem acks_answer_outstanding_configures {start : Shell} (begins : Reached 0 start)
    (acts : List Act) (short : acts.length < 2 ^ 32 - 1) (id : SurfaceId) {surface : Surface}
    (present : (start.performAll acts).surfaces.get? id = some surface) :
    ((∃ front round, Round start id acts front round) ∧
      ∀ front round, Round start id acts front round → ∀ raw,
        (((start.performAll acts).perform (.request (.ack id raw))).fault = none ↔
          (start.performAll front).Outstanding id round raw) ∧
        (¬ (start.performAll front).Outstanding id round raw →
          ((start.performAll acts).perform (.request (.ack id raw))).fault =
            some (.refused id (.invalidSerial raw)))) ∧
    (start.acksOf id acts).Pairwise (· < ·) ∧
    (∀ before after early, acts = before ++ after → (start.performAll before).Lasts id after →
      (start.performAll before).surfaces.get? id = some early → CaughtUp early surface) ∧
    (∃ front life, Lifetime start id acts front life) ∧
      ∀ front life, Lifetime start id acts front life →
        surface.configureSerial.map Serial.val = (start.performAll front).settledAck? id life := by
  have absent := begins.untouched id
  refine ⟨⟨round_exists absent acts present, fun front round current raw => ?_⟩,
    (acksOf_ascending begins id acts short).ascend, ?_, lifetime_exists absent acts present,
    fun front life current => (current.recalls begins.roled present).committed⟩
  · rw [← current.tallies begins short present raw]
    refine ⟨(ack_fault present raw).trans Surface.ack_ok_iff, fun idle => ?_⟩
    rw [ack_of_error present (Surface.ack_error idle), reject]
  · rintro before after early rfl lasts early_present
    exact lasts.caughtUp begins short early_present present

/-- A window that is shown and then sent two configures, of which its client acknowledges the second. -/
def passedOver : List Act :=
  [ .request (.newToplevel ⟨1⟩), .request (.commit ⟨1⟩ {}), .request (.ack ⟨1⟩ 1),
    .request (.commit ⟨1⟩ { buffer := .attach { width := 100, height := 100 } }),
    .call ⟨1⟩ (.activate true), .call ⟨1⟩ (.maximize true), .request (.ack ⟨1⟩ 3) ]

/-- The first of the two is not outstanding any more, and the window is still committed with the
acknowledgement from before it was shown. -/
theorem acks_answer_outstanding_configures_passedOver :
    ∃ front round, Round (fresh { pingOnCreate := false } .empty 0) ⟨1⟩ passedOver front round ∧
      ¬ ((fresh { pingOnCreate := false } .empty 0).performAll front).Outstanding ⟨1⟩ round 2 ∧
      (fresh { pingOnCreate := false } .empty 0).acksOf ⟨1⟩ passedOver = [1, 3] ∧
      ∃ front life, Lifetime (fresh { pingOnCreate := false } .empty 0) ⟨1⟩ passedOver front life ∧
        ((fresh { pingOnCreate := false } .empty 0).performAll front).settledAck? ⟨1⟩ life = some 1 := by
  obtain ⟨⟨⟨front, round, current⟩, each⟩, -, -, ⟨earlier, life, lived⟩, settled⟩ :=
    acks_answer_outstanding_configures (.fresh 0 { pingOnCreate := false } .empty 0) passedOver
      (by decide) ⟨1⟩ rfl
  refine ⟨front, round, current, fun outstanding => ?_, by decide, earlier, life, lived, ?_⟩
  · have accepted := (each front round current 2).1.mpr outstanding
    exact absurd accepted (by decide)
  · rw [← settled earlier life lived]
    rfl

end Shell

end WindowShell
