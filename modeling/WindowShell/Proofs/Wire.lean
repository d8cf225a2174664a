/-
**Configures on the wire.**

All surfaces share one counter, and whatever it hands out is posted at once. So the serials of the
messages to a client are the numbers from one on, without a gap and in order, whoever they are addressed
to. What a surface remembers of configures, and what a view waits for, comes from these messages and from
nowhere else: it was posted to that very surface, since the surface was created.

* `Reached.gapless`: the serials that were posted are those that were handed out;
* `Surface.DrawsOn`, `Turn.drawsOn`: what a surface remembers was sent to it;
* `Lifetime.drawsOn`: so it was sent in the lifetime of the surface;
* `serials_count_messages`: both, and what views wait for.
-/

import WindowShell.Proofs.Arrival

namespace WindowShell

namespace Surface

/-! ### What a surface remembers -/

/-- What is in flight, acknowledged and committed at a surface comes from certain configures. -/
structure DrawsOn (surface : Surface) (sent : List Configure) : Prop where
  waiting : ∀ configure, configure ∈ surface.inflight ∨ surface.acked = some configure →
    configure ∈ sent
  committed : ∀ serial, surface.configureSerial = some serial →
    ∃ configure ∈ sent, configure.serial = serial

section Drawing

variable {surface after : Surface} {sent : List Configure}

theorem DrawsOn.new (role : Role) : ({ role } : Surface).DrawsOn [] where
  waiting := by simp
  committed := by simp

/-- The rest of a surface does not matter. -/
theorem DrawsOn.congr (draws : surface.DrawsOn sent) (inflight : after.inflight = surface.inflight)
    (acked : after.acked = surface.acked)
    (configureSerial : after.configureSerial = surface.configureSerial) : after.DrawsOn sent where
  waiting configure := by
    rw [inflight, acked]
    exact draws.waiting configure
  committed serial := by
    rw [configureSerial]
    exact draws.committed serial

theorem DrawsOn.ack {raw : UInt32} (draws : surface.DrawsOn sent)
    (done : surface.ack raw = .ok after) : after.DrawsOn sent := by
  obtain ⟨passed, acked, rest, split, -, rfl⟩ := ack_split done
  refine ⟨fun configure member => draws.waiting configure (.inl ?_), draws.committed⟩
  rcases member with later | same
  · simp [split, later]
  · obtain rfl := Option.some.inj same
    simp [split]

theorem DrawsOn.commit {commit : Commit} {effect : CommitEffect} (draws : surface.DrawsOn sent)
    (done : surface.commit commit = .ok (after, effect)) : after.DrawsOn sent := by
  obtain ⟨caught, none⟩ := configureSerial_commit done
  constructor
  · rintro configure (member | acked)
    · rw [inflight_commit done] at member
      split at member
      · cases member
      · exact draws.waiting configure (.inl member)
    · rw [none] at acked
      cases acked
  · intro serial same
    rw [caught] at same
    cases acked : surface.acked with
    | none =>
      rw [acked, Option.map_none, Option.none_or] at same
      exact draws.committed serial same
    | some configure =>
      rw [acked, Option.map_some, Option.some_or, Option.some.injEq] at same
      exact ⟨configure, draws.waiting configure (.inr acked), same⟩

theorem DrawsOn.schedule {serials next : SerialCounter} {force : Bool} {configure : Configure}
    (draws : surface.DrawsOn sent)
    (due : surface.schedule serials force = some (configure, after, next)) :
    after.DrawsOn (sent ++ [configure]) := by
  obtain ⟨-, -, rfl, -⟩ := schedule_some due
  constructor
  · rintro other (member | acked)
    · rcases List.mem_append.mp member with old | new
      · exact List.mem_append_left _ (draws.waiting other (.inl old))
      · exact List.mem_append_right _ new
    · exact List.mem_append_left _ (draws.waiting other (.inr acked))
  · intro serial same
    obtain ⟨earlier, member, named⟩ := draws.committed serial same
    exact ⟨earlier, List.mem_append_left _ member, named⟩

end Drawing

end Surface

namespace Shell

/-! ### What is posted -/

section Posting

variable {shell : Shell} {count : Nat}

/-- The serials that were posted are the numbers from one on, up to the one that comes next. -/
def Gapless (shell : Shell) : Prop :=
  (shell.outbox.filterMap Message.serial?).map Serial.number =
    List.range' 1 (shell.serials.next.number - 1)

theorem Posts.gapless {before after : Shell} (posts : Posts before after) (gapless : before.Gapless)
    (below : before.serials.next.number + 1 < 2 ^ 32) : after.Gapless := by
  have positive : 0 < before.serials.next.number :=
    Nat.pos_of_ne_zero fun zero => before.serials.next.ne_zero (UInt32.toNat_inj.mp zero)
  obtain ⟨messages, outbox, ⟨serials, none⟩ | ⟨serials, one⟩⟩ := posts
  · rw [Gapless, outbox, List.filterMap_append, none, List.append_nil, serials]
    exact gapless
  · have later : after.serials.next.number - 1 = before.serials.next.number - 1 + 1 := by
      rw [serials, SerialCounter.allocate, Serial.number_next below]
      omega
    have last : 1 + 1 * (before.serials.next.number - 1) = before.serials.next.number := by omega
    rw [Gapless, outbox, List.filterMap_append, one, List.map_append, gapless, later,
      List.range'_concat, last]
    rfl

/-- **No serial is left out**, in fewer acts than there are serials. -/
theorem Reached.gapless (reached : Reached count shell) (short : count < 2 ^ 32 - 1) :
    shell.Gapless := by
  induction reached with
  | fresh => rfl
  | act act reached ih =>
    have counted := (reached.timely (by omega)).counted
    exact (perform_posts reached.roled act).gapless (ih (by omega)) (by omega)

theorem mem_sentTo {id : SurfaceId} {configure : Configure} :
    configure ∈ shell.sentTo id ↔ .configure id configure ∈ shell.outbox := by
  simp only [sentTo, List.mem_filterMap]
  constructor
  · rintro ⟨message, member, found⟩
    cases message with
    | configure surface sent =>
      simp only [Message.configureFor?, Option.ite_none_right_eq_some, Option.some.injEq] at found
      obtain ⟨rfl, rfl⟩ := found
      exact member
    | close | popupDone | ping => cases found
  · exact fun member => ⟨_, member, if_pos rfl⟩

end Posting

/-! ### What is sent in a lifetime -/

section Lifetimes

variable {start shell opened : Shell} {id : SurfaceId} {acts front life : List Act} {act : Act}
  {surface after : Surface} {sent new : List Configure}

/-- What a surface remembers comes from what was sent to it. -/
theorem Turn.drawsOn (turn : Turn shell id act (some surface) (some after) new)
    (draws : surface.DrawsOn sent) : after.DrawsOn (sent ++ new) := by
  cases turn with
  | invite commit done due => exact (draws.commit done).schedule due
  | @propose _ surface _ change _ _ _ due =>
    have asked : (surface.setPending change).DrawsOn sent := draws.congr rfl rfl rfl
    exact asked.schedule due
  | rest =>
    rw [List.append_nil]
    exact draws
  | declareMin size done | declareMax size done =>
    rw [List.append_nil, Surface.changeToplevel_ok done]
    exact draws.congr rfl rfl rfl
  | ack raw done =>
    rw [List.append_nil]
    exact draws.ack done
  | commit commit done =>
    rw [List.append_nil]
    exact draws.commit done
  | agree =>
    rw [List.append_nil]
    exact draws.congr rfl rfl rfl

/-- **What a surface remembers was sent to it in its lifetime.** -/
theorem Lifetime.drawsOn (current : Lifetime start id acts front life) (roled : start.Roled)
    (found : (start.performAll acts).surfaces.get? id = some surface) :
    ∃ sent, ((start.performAll front).performAll life).sentTo id =
      (start.performAll front).sentTo id ++ sent ∧ surface.DrawsOn sent := by
  refine current.induction (motive := fun life surface => ∃ sent,
    ((start.performAll front).performAll life).sentTo id =
      (start.performAll front).sentTo id ++ sent ∧ surface.DrawsOn sent) roled found
    (fun role => ⟨[], (List.append_nil _).symm, .new role⟩) ?_
  rintro life act surface after roled present found ⟨sent, same, draws⟩
  obtain ⟨new, grows, turn⟩ := perform_turn roled act id
  rw [present, found] at turn
  refine ⟨sent ++ new, ?_, turn.drawsOn draws⟩
  rw [performAll_append, performAll_cons, performAll_nil, grows, same, List.append_assoc]

/-- What was sent at some point of a run is among all that was sent in it. -/
theorem Told.mem {configure : Configure} (told : opened.Told id acts configure)
    (roled : opened.Roled) (same : (opened.performAll acts).sentTo id = opened.sentTo id ++ sent) :
    configure ∈ sent := by
  obtain ⟨before, act, after, rfl, grows⟩ := told
  obtain ⟨early, begins⟩ := sentTo_performAll roled id before
  obtain ⟨late, ends⟩ := sentTo_performAll (perform_roled (performAll_roled roled before) act) id after
  rw [performAll_append, performAll_cons, ends, grows, begins, List.append_assoc, List.append_assoc,
    List.append_cancel_left_eq] at same
  rw [← same]
  simp

end Lifetimes

end Shell

namespace Scenario

open Shell

/-- **Every serial counts one message.** In a scenario of fewer steps than there are serials, the serials
of all configures and pings are, in the order of the messages, the numbers from one on. In any run,
whatever is in flight or acknowledged at a surface is a configure that was posted to that surface since it
was created, and the serial it has committed, and any serial that its view waits for, is the serial of
such a configure. -/
theorem serials_count_messages :
    (∀ (scenario : Scenario) (settings : Settings), scenario.steps.length < 2 ^ 32 - 1 →
      ∃ count, ((scenario.replay settings).messages.filterMap Message.serial?).map Serial.number =
        List.range' 1 count) ∧
    ∀ (start : Shell) (acts : List Act), Reached 0 start →
      (∀ id surface, (start.performAll acts).surfaces.get? id = some surface →
        ∃ front life, Lifetime start id acts front life) ∧
      (∀ window view, (start.performAll acts).views.get? window = some view →
        ∃ front life, Lifetime start view.surface acts front life) ∧
      ∀ id front life, Lifetime start id acts front life →
        ∃ sent, (start.performAll acts).sentTo id = (start.performAll front).sentTo id ++ sent ∧
          (∀ configure ∈ sent, .configure id configure ∈ (start.performAll acts).outbox) ∧
          (∀ surface, (start.performAll acts).surfaces.get? id = some surface →
            (∀ configure, configure ∈ surface.inflight ∨ surface.acked = some configure →
              configure ∈ sent) ∧
            ∀ serial, surface.configureSerial = some serial →
              ∃ configure ∈ sent, configure.serial = serial) ∧
          ∀ window view serial, (start.performAll acts).views.get? window = some view →
            view.surface = id → view.negotiation.awaited = some serial →
              ∃ configure ∈ sent, configure.serial = serial := by
  refine ⟨fun scenario settings short => ?_, fun start acts begins => ⟨?_, ?_, ?_⟩⟩
  · have reached := (Reached.start scenario settings).runFrom 0 scenario.steps
    exact ⟨_, reached.gapless (by omega)⟩
  · exact fun id surface present => lifetime_exists (begins.untouched id) acts present
  · intro window view live
    obtain ⟨surface, present, -⟩ := (begins.performAll acts).sound.view_fits live
    exact lifetime_exists (begins.untouched _) acts present
  · intro id front life current
    obtain ⟨surface, present⟩ := current.lasts.present
    rw [← performAll_append, ← current.split] at present
    obtain ⟨sent, same, draws⟩ := current.drawsOn begins.roled present
    have owed := current.owed begins present
    have all : (start.performAll acts).sentTo id = (start.performAll front).sentTo id ++ sent := by
      rw [current.split, performAll_append, same]
    refine ⟨sent, all, fun configure member => ?_, ?_, ?_⟩
    · exact mem_sentTo.mp (all ▸ List.mem_append_right _ member)
    · intro found there
      obtain rfl := Option.some.inj (present.symm.trans there)
      exact ⟨draws.waiting, draws.committed⟩
    · intro window view serial live wraps waits
      rw [current.split, performAll_append] at live
      obtain ⟨configure, told, named⟩ := owed window view serial live wraps waits
      exact ⟨configure, told.mem (begins.performAll front).roled same, named⟩

/-- Two windows, of which the second goes away and comes back under its old number. -/
def replacedWindow : Scenario where
  steps :=
    [ .newToplevel ⟨1⟩, .newToplevel ⟨2⟩, .commit ⟨2⟩ none false none, .destroy ⟨2⟩, .newToplevel ⟨2⟩,
      .commit ⟨1⟩ none false none, .commit ⟨2⟩ none false none ]

/-- Three pings and three configures count up to six, and the configure that a window waits for in
another run was posted to it. -/
theorem serials_count_messages_replacedWindow :
    ((replacedWindow.replay {}).messages.filterMap Message.serial?).map Serial.number =
        [1, 2, 3, 4, 5, 6] ∧
      ∃ configure, configure.serial.number = 2 ∧ .configure ⟨1⟩ configure ∈
        ((fresh { pingOnCreate := false } .empty 0).performAll movePassedOver).outbox := by
  obtain ⟨counts, draws⟩ := serials_count_messages
  constructor
  · obtain ⟨count, serials⟩ := counts replacedWindow {} (by decide)
    have six : ((replacedWindow.replay {}).messages.filterMap Message.serial?).length = 6 := by
      decide +kernel
    have counted := congrArg List.length serials
    rw [List.length_map, six, List.length_range'] at counted
    subst counted
    exact serials
  · obtain ⟨-, views, comes⟩ := draws _ movePassedOver (.fresh 0 { pingOnCreate := false } .empty 0)
    obtain ⟨front, life, current⟩ := views ⟨1⟩ _ rfl
    obtain ⟨sent, -, posted, -, awaited⟩ := comes ⟨1⟩ front life current
    obtain ⟨configure, member, named⟩ := awaited ⟨1⟩ _ _ rfl rfl rfl
    exact ⟨configure, congrArg Serial.number named, posted configure member⟩

end Scenario

end WindowShell
