/-
**What a view waits for can still arrive.**

A view waits under the serial of a configure, but the configure itself is with the surface. There it is
acknowledged, passed over by a newer one, or thrown away when the surface is unmapped, and the view is
told of none of this. It never waits in vain: the configure is still in flight, or the client has caught
up with it or with a newer one, or the client starts over, and then whatever it can acknowledge is newer:

* `Surface.Arrives`, `Turn.arrives`, `Reached.arrives`: how a configure can still arrive;
* `Owed`, `Lifetime.owed`: what a view waits for was sent to its surface;
* `commit_releases`: once nothing is in flight any more, a visible commit releases the view;
* `awaited_configure_arrives`: all of it.
-/

import WindowShell.Proofs.Outstanding

namespace WindowShell

namespace Serial

/-- What was handed out is not newer than what was handed out last. -/
theorem le_last {serial : Serial} {counter : SerialCounter}
    (handed : serial.number < counter.next.number) :
    ∃ last, counter.last? = some last ∧ serial ≤ last := by
  have positive : 0 < serial.number :=
    Nat.pos_of_ne_zero fun zero => serial.ne_zero (UInt32.toNat_inj.mp zero)
  have before : (counter.next.val - 1).toNat = counter.next.number - 1 :=
    UInt32.toNat_sub_of_le _ _ (UInt32.le_iff_toNat_le.mpr (Nat.zero_lt_of_lt handed))
  have nonzero : counter.next.val - 1 ≠ 0 := fun zero => by
    rw [zero] at before
    have : (0 : UInt32).toNat = 0 := rfl
    omega
  refine ⟨⟨counter.next.val - 1, nonzero⟩, ofRaw?_eq_some_iff.mpr rfl, le_iff.mpr ?_⟩
  rw [number, number, before]
  exact Nat.le_sub_one_of_lt handed

end Serial

namespace Surface

/-- **How a configure can still arrive** at a surface: it is in flight, or the client has acknowledged or
committed it or a newer one, or the surface starts over and everything in flight is newer. -/
inductive Arrives (surface : Surface) (awaited : Serial) : Prop
  | inflight {configure : Configure} (member : configure ∈ surface.inflight)
      (named : configure.serial = awaited) : Arrives surface awaited
  | acked {configure : Configure} (acked : surface.acked = some configure)
      (enough : awaited ≤ configure.serial) : Arrives surface awaited
  | committed {caught : Serial} (committed : surface.configureSerial = some caught)
      (enough : awaited ≤ caught) : Arrives surface awaited
  | restarts (hidden : surface.mapped = false) (unconfigured : surface.configured = false)
      (unacked : surface.acked = none)
      (newer : ∀ configure ∈ surface.inflight, awaited < configure.serial) :
      Arrives surface awaited

section Arriving

variable {surface after : Surface} {awaited : Serial} {next : Nat}

theorem Arrives.congr (arrives : surface.Arrives awaited)
    (inflight : after.inflight = surface.inflight) (acked : after.acked = surface.acked)
    (configureSerial : after.configureSerial = surface.configureSerial)
    (mapped : after.mapped = surface.mapped) (configured : after.configured = surface.configured) :
    after.Arrives awaited := by
  cases arrives with
  | inflight member named => exact .inflight (inflight ▸ member) named
  | acked same enough => exact .acked (acked.trans same) enough
  | committed same enough => exact .committed (configureSerial.trans same) enough
  | restarts hidden unconfigured unacked newer =>
    exact .restarts (mapped.trans hidden) (configured.trans unconfigured) (acked.trans unacked)
      (inflight ▸ newer)

theorem Arrives.setPending (arrives : surface.Arrives awaited)
    (change : ToplevelState → ToplevelState) : (surface.setPending change).Arrives awaited :=
  arrives.congr rfl rfl rfl rfl rfl

theorem Arrives.ack {raw : UInt32} (arrives : surface.Arrives awaited)
    (ordered : surface.InOrder next) (done : surface.ack raw = .ok after) :
    after.Arrives awaited := by
  obtain ⟨passed, acked, rest, split, -, rfl⟩ := ack_split done
  have member : acked ∈ surface.inflight := by simp [split]
  cases arrives with
  | @inflight configure here named =>
    subst named
    have queue := ordered.inflight
    rw [split] at here queue
    rcases List.mem_append.mp here with earlier | onward
    · -- the acknowledgement passes it over
      have less : configure.serial < acked.serial :=
        (List.pairwise_append.mp queue).2.2 configure earlier acked List.mem_cons_self
      exact .acked rfl less.le
    · rcases List.mem_cons.mp onward with rfl | later
      · exact .acked rfl (le_refl _)
      · exact .inflight later rfl
  | acked same enough => exact .acked rfl (enough.trans (ordered.acked_lt same member).le)
  | committed same enough => exact .committed same enough
  | restarts _ _ _ newer => exact .acked rfl (newer acked member).le

theorem Arrives.commit {commit : Commit} {effect : CommitEffect} (arrives : surface.Arrives awaited)
    (ordered : surface.InOrder next) (done : surface.commit commit = .ok (after, effect)) :
    after.Arrives awaited := by
  obtain ⟨caught, unacked⟩ := configureSerial_commit done
  obtain ⟨-, -, settled⟩ := commit_ok done
  cases arrives with
  | inflight member named =>
    obtain ⟨-, rfl⟩ | ⟨-, -, rfl⟩ := settle_cases settled
    · exact .restarts rfl rfl unacked nofun
    · exact .inflight (by simpa using member) named
  | acked same enough =>
    rw [same, Option.map_some, Option.some_or] at caught
    exact .committed caught enough
  | committed same enough =>
    cases waiting : surface.acked with
    | none =>
      rw [waiting, Option.map_none, Option.none_or, same] at caught
      exact .committed caught enough
    | some configure =>
      rw [waiting, Option.map_some, Option.some_or] at caught
      exact .committed caught (enough.trans (ordered.committed_lt same waiting).le)
  | restarts hidden unconfigured idle newer =>
    obtain ⟨-, rfl⟩ | ⟨-, -, rfl⟩ := settle_cases settled
    · exact .restarts rfl rfl unacked nofun
    · have still : (surface.latchAck.latchContent commit).configured = false := by
        simp [latchAck_configured, unconfigured, idle]
      have unseen : ((surface.latchAck.latchContent commit).mapped ||
          ((surface.latchAck.latchContent commit).configured &&
            (surface.latchAck.latchContent commit).buffer.isSome)) = false := by
        rw [latch_mapped, hidden, still, Bool.false_and, Bool.or_false]
      exact .restarts unseen still unacked (by simpa using newer)

theorem Arrives.schedule {serials counted : SerialCounter} {force : Bool} {configure : Configure}
    (arrives : surface.Arrives awaited) (early : awaited.number < serials.next.number)
    (sent : surface.schedule serials force = some (configure, after, counted)) :
    after.Arrives awaited := by
  obtain ⟨-, serial, rfl, -⟩ := schedule_some sent
  cases arrives with
  | inflight member named => exact .inflight (List.mem_append_left _ member) named
  | acked same enough => exact .acked same enough
  | committed same enough => exact .committed same enough
  | restarts hidden unconfigured unacked newer =>
    refine .restarts hidden unconfigured unacked (List.forall_mem_append.mpr ⟨newer, ?_⟩)
    exact List.forall_mem_singleton.mpr (Serial.lt_iff.mpr (serial ▸ early))

/-- What was awaited is caught up with at a visible surface where nothing is in flight or
acknowledged. -/
theorem Arrives.caught (arrives : surface.Arrives awaited) (mapped : surface.mapped)
    (idle : surface.inflight = []) (unacked : surface.acked = none) :
    ∃ caught, surface.configureSerial = some caught ∧ awaited ≤ caught := by
  cases arrives with
  | inflight member =>
    rw [idle] at member
    cases member
  | acked same =>
    rw [unacked] at same
    cases same
  | committed same enough => exact ⟨_, same, enough⟩
  | restarts hidden =>
    rw [mapped] at hidden
    cases hidden

/-- A configured surface takes every commit. -/
theorem commit_taken (roled : surface.role ≠ .unset) (configured : surface.configured)
    (commit : Commit) : ∃ after effect, surface.commit commit = .ok (after, effect) := by
  rw [commit_eq, if_neg roled, attachesTooEarly_of_configured configured]
  exact ⟨_, _, rfl⟩

end Arriving

end Surface

namespace Shell

section Waiting

variable {start shell opened : Shell} {id : SurfaceId} {acts front life : List Act} {act : Act}
  {surface after : Surface} {sent : List Configure} {awaited : Serial} {count next : Nat}

/-- What can still arrive can do so after an act. -/
theorem Turn.arrives (turn : Turn shell id act (some surface) (some after) sent)
    (ordered : surface.InOrder next) (early : awaited.number < shell.serials.next.number)
    (arrives : surface.Arrives awaited) : after.Arrives awaited := by
  cases turn with
  | rest => exact arrives
  | declareMin size done | declareMax size done =>
    rw [Surface.changeToplevel_ok done]
    exact arrives.congr rfl rfl rfl rfl rfl
  | ack raw done => exact arrives.ack ordered done
  | commit commit done => exact arrives.commit ordered done
  | invite commit done due => exact (arrives.commit ordered done).schedule early due
  | agree => exact arrives.setPending _
  | propose _ due => exact (arrives.setPending _).schedule early due

/-- **What a view waits for can still arrive** at its surface. -/
theorem Reached.arrives (reached : Reached count shell) (short : count < 2 ^ 32 - 1) :
    ∀ id view surface awaited, shell.views.get? id = some view →
      shell.surfaces.get? view.surface = some surface → view.negotiation.awaited = some awaited →
        surface.Arrives awaited := by
  induction reached with
  | fresh => exact fun _ _ _ _ found => by cases found
  | act act reached ih =>
    intro id new after awaited kept present waits
    have timely := reached.timely (by omega)
    rcases awaited_cases reached.sound reached.roled act kept waits with
      ⟨old, live, same, waited⟩ | sends
    · obtain ⟨surface, found, -⟩ := reached.sound.view_fits live
      obtain ⟨early, -⟩ := timely.views id old surface awaited live found waited
      obtain ⟨sent, -, turn⟩ := perform_turn reached.roled act old.surface
      rw [found, same, present] at turn
      exact turn.arrives (timely.surfaces old.surface surface found).ordered early
        (ih (by omega) id old surface awaited live found waited)
    · obtain ⟨-, -, older, configure, inflight, named⟩ := sends.newest reached.roled present
      exact .inflight (by simp [inflight]) named

/-! ### What was sent -/

/-- What the views of a surface wait for after a run was sent to the surface in that run. -/
def Owed (opened : Shell) (id : SurfaceId) (acts : List Act) : Prop :=
  ∀ window view awaited, (opened.performAll acts).views.get? window = some view →
    view.surface = id → view.negotiation.awaited = some awaited →
      ∃ configure, opened.Told id acts configure ∧ configure.serial = awaited

/-- No view waits for anything at a surface that was just created. -/
theorem Creates.owed (creates : shell.Creates id act) (sound : shell.Sound) (roled : shell.Roled) :
    Owed (shell.perform act).shell id [] := by
  rintro window view awaited kept rfl waits
  rcases perform_descends roled act kept with ⟨old, live, same⟩ | idle
  · obtain ⟨surface, found, -⟩ := sound.view_fits live
    rw [same, creates.1] at found
    cases found
  · rw [idle] at waits
    cases waits

theorem Owed.perform (owed : Owed opened id acts) (sound : (opened.performAll acts).Sound)
    (roled : (opened.performAll acts).Roled) : Owed opened id (acts ++ [act]) := by
  rintro window new awaited kept rfl waits
  rw [performAll_append] at kept
  rcases awaited_cases sound roled act kept waits with ⟨old, live, same, waited⟩ | sends
  · obtain ⟨configure, told, named⟩ := owed window old awaited live same waited
    exact ⟨configure, sometime_snoc.mpr (.inl told), named⟩
  · obtain ⟨payload, outbox⟩ := sends
    refine ⟨{ serial := awaited, payload }, sometime_snoc.mpr (.inr ?_), rfl⟩
    rw [sentTo_of_outbox new.surface outbox]
    simp [Message.configureFor?]

/-- **What a view waits for was sent to its surface** in the lifetime of the surface. -/
theorem Lifetime.owed (current : Lifetime start id acts front life) (begins : Reached 0 start)
    (found : (start.performAll acts).surfaces.get? id = some surface) :
    Owed (start.performAll front) id life := by
  refine current.induction (motive := fun life _ => Owed (start.performAll front) id life)
    begins.roled found (fun _ => ?_) fun life act _ _ roled _ _ owed => owed.perform ?_ roled
  · obtain ⟨earlier, creating, rfl, creates⟩ := current.created
    have reached := begins.performAll earlier
    rw [performAll_append]
    exact creates.owed reached.sound reached.roled
  · exact ((begins.performAll front).performAll life).sound

/-! ### What is released -/

/-- **A visible commit releases a view** once nothing is in flight any more. -/
theorem commit_releases {window : ViewId} {view : View} {shown : Surface} {commit : Commit}
    (reached : Reached count shell) (short : count < 2 ^ 32 - 1)
    (live : shell.views.get? window = some view)
    (present : shell.surfaces.get? view.surface = some surface)
    (waits : view.negotiation.awaited = some awaited) (mapped : surface.mapped)
    (idle : surface.inflight = [])
    (found : (shell.perform (.request (.commit view.surface commit))).shell.surfaces.get?
      view.surface = some shown) (visible : shown.mapped) :
    ∃ new, (shell.perform (.request (.commit view.surface commit))).shell.views.get? window =
        some new ∧
      new.position = view.negotiation.target.positionFor view.position shown.contentSize := by
  have timed := (reached.timely short).surfaces _ _ present
  obtain ⟨after, effect, done⟩ :=
    Surface.commit_taken (reached.roled _ _ present) (timed.shown mapped).1 commit
  obtain ⟨inflight, stored⟩ := commit_stored present done
  obtain rfl := Option.some.inj (stored.symm.trans found)
  have accepted : (shell.perform (.request (.commit view.surface commit))).fault = none := by
    rw [commit_fault present, done]
  obtain ⟨new, kept, core⟩ := view_of_frame (commit_frame view.surface commit).symm live
  obtain ⟨released, shift, lands⟩ := perform_shift reached.sound reached.roled
    (.request (.commit view.surface commit)) live kept (View.surface_of_core core)
  have reconciled := shift.released_of_shows ⟨commit, rfl, accepted, found, visible⟩
  have arrives := (reached.arrives short window view surface awaited live present waits).commit
    timed.ordered done
  have quiet : after.inflight = [] := by rw [Surface.inflight_commit done, idle, ite_self]
  obtain ⟨caught, same, enough⟩ :=
    arrives.caught visible quiet (Surface.configureSerial_commit done).2
  refine ⟨new, kept, ?_⟩
  rw [lands.position, reconciled, (Negotiation.reconcile_released _ _ _ _ _).mpr
    ⟨awaited, caught, waits, same, enough, rfl⟩, Option.getD_some]

end Waiting

/-- **What a view waits for can still arrive.** In fewer acts than there are serials, whatever a view
waits for was sent to its surface in the lifetime of the surface, and is not newer than the serial handed
out last. It is still in flight there, or the client has acknowledged or committed it or a newer one, or
the surface is hidden and not configured and everything in flight is newer. So if the surface is visible
and nothing is in flight, every commit that leaves it visible puts the view where the parked target
says. -/
theorem awaited_configure_arrives {start : Shell} (begins : Reached 0 start) (acts : List Act)
    (short : acts.length < 2 ^ 32 - 1) (id : ViewId) {view : View}
    (live : (start.performAll acts).views.get? id = some view) {awaited : Serial}
    (waits : view.negotiation.awaited = some awaited) :
    (∃ front life, Lifetime start view.surface acts front life) ∧
    (∀ front life, Lifetime start view.surface acts front life →
      ∃ configure, (start.performAll front).Told view.surface life configure ∧
        configure.serial = awaited) ∧
    (∃ last, (start.performAll acts).serials.last? = some last ∧ awaited ≤ last) ∧
    ∃ surface, (start.performAll acts).surfaces.get? view.surface = some surface ∧
      surface.Arrives awaited ∧
      (surface.mapped → surface.inflight = [] → ∀ commit shown,
        ((start.performAll acts).perform (.request (.commit view.surface commit))).shell.surfaces.get?
          view.surface = some shown → shown.mapped →
        ∃ new, ((start.performAll acts).perform
            (.request (.commit view.surface commit))).shell.views.get? id = some new ∧
          new.position = view.negotiation.target.positionFor view.position shown.contentSize) := by
  have reached := begins.performAll acts
  have few : 0 + acts.length < 2 ^ 32 - 1 := by omega
  obtain ⟨surface, present, -⟩ := reached.sound.view_fits live
  obtain ⟨handed, -⟩ := (reached.timely few).views id view surface awaited live present waits
  refine ⟨lifetime_exists (begins.untouched _) acts present, fun front life current => ?_,
    Serial.le_last handed, surface, present, reached.arrives few id view surface awaited live present
      waits, fun mapped idle commit shown found visible =>
      commit_releases reached few live present waits mapped idle found visible⟩
  have still := live
  rw [current.split, performAll_append] at still
  exact current.owed begins present id view awaited still rfl waits

/-- A window that is moved and resized and then given the focus, and whose client acknowledges only the
second of the two. -/
def movePassedOver : List Act :=
  [ .request (.newToplevel ⟨1⟩), .request (.commit ⟨1⟩ {}), .request (.ack ⟨1⟩ 1),
    .request (.commit ⟨1⟩ { buffer := .attach { width := 100, height := 100 } }),
    .call ⟨1⟩ (.moveResize { x := 10, y := 0 } { width := 50, height := 50 }),
    .call ⟨1⟩ (.activate true), .request (.ack ⟨1⟩ 3) ]

/-- The configure of the move does not arrive any more, but the next commit releases the move. -/
theorem awaited_configure_arrives_movePassedOver :
    ∃ front life,
      Lifetime (fresh { pingOnCreate := false } .empty 0) ⟨1⟩ movePassedOver front life ∧
      (∃ configure, ((fresh { pingOnCreate := false } .empty 0).performAll front).Told ⟨1⟩ life
        configure ∧ configure.serial.val = 2) ∧
      ∃ new, (((fresh { pingOnCreate := false } .empty 0).performAll movePassedOver).perform
          (.request (.commit ⟨1⟩ { buffer := .attach { width := 40, height := 50 } }))).shell.views.get?
            ⟨1⟩ = some new ∧ new.position = { x := 20, y := 0 } := by
  obtain ⟨⟨front, life, current⟩, sent, -, surface, present, -, releases⟩ :=
    awaited_configure_arrives (.fresh 0 { pingOnCreate := false } .empty 0) movePassedOver (by decide)
      ⟨1⟩ rfl rfl
  obtain ⟨configure, told, named⟩ := sent front life current
  obtain rfl := Option.some.inj (present.symm.trans rfl)
  obtain ⟨new, kept, position⟩ := releases rfl rfl
    { buffer := .attach { width := 40, height := 50 } } _ rfl rfl
  exact ⟨front, life, current, ⟨configure, told, named ▸ rfl⟩, new, kept, position.trans (by decide)⟩

end Shell

end WindowShell
