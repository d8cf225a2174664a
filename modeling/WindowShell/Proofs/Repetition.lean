/-
**States that a window is told twice.**

Window management keeps the traffic low: a call that asks a window for the state of the newest configure
is silent. What counts as the newest is the last configure in flight, or else the committed state. A
configure that the client has acknowledged and not yet committed is in neither place. A call that asks
once more for its state is therefore compared with the committed one, and if that is another, the window
is told the same thing a second time. Apart from this gap, no two configures in a row say the same:

* `Surface.HeadsFor`, `Turn.headsFor`: from the moment a configure is sent, and as long as the round lasts
  and nothing else is sent, the client heads for its payload;
* `Surface.HeadsFor.told_iff`: what the next configure says, compared with that payload;
* `successive_configures_eq_iff`: two configures in a row carry the same state exactly if the second call
  repeats what was acknowledged and not yet committed;
* `repeated_focus_is_told_again`: a window that is given the focus twice, and told so twice.
-/

import WindowShell.Proofs.Invitation
import WindowShell.Proofs.Outcome

namespace WindowShell

namespace Surface

/-! ### Where the client heads between two configures -/

/-- The client of a window heads for a payload it was sent, and has a trace of it. -/
structure HeadsFor (surface : Surface) (payload : Payload) : Prop where
  fitting : surface.Fitting
  primed : surface.Primed
  heading : surface.isToplevel → surface.heading? = some payload

/-- A call asks for the state of the configure that the client has acknowledged, while nothing is in
flight and the committed state is another one. -/
def Repeats (surface : Surface) (change : ToplevelState → ToplevelState) : Prop :=
  ∃ toplevel acked, surface.role = .toplevel toplevel ∧ surface.inflight = [] ∧
    surface.acked = some acked ∧ acked.payload = .toplevel (change toplevel.pending) ∧
      change toplevel.pending ≠ toplevel.current

section Heading

variable {surface after : Surface} {payload : Payload}

/-- Whatever is sent, the client heads for it next. -/
theorem HeadsFor.of_schedule {serials next : SerialCounter} {force : Bool} {configure : Configure}
    (fitting : surface.Fitting)
    (sent : surface.schedule serials force = some (configure, after, next)) :
    after.HeadsFor configure.payload := by
  have fits := fitting.schedule sent
  obtain ⟨-, -, rfl, -⟩ := schedule_some sent
  exact ⟨fits, .inl (List.concat_ne_nil _ _), fun _ => heading?_of_inflight List.getLast?_concat⟩

theorem HeadsFor.declare {change : Toplevel → Toplevel} (heads : surface.HeadsFor payload)
    (done : surface.changeToplevel change = .ok after)
    (keeps : ∀ toplevel, (change toplevel).current = toplevel.current) : after.HeadsFor payload := by
  obtain rfl := changeToplevel_ok done
  have window : ({ surface with role := surface.role.mapToplevel change } : Surface).isToplevel =
      surface.isToplevel := by
    cases role : surface.role <;> simp [isToplevel, role, Role.mapToplevel, Role.toplevel?]
  refine ⟨heads.fitting.of_subset window fun _ member => member, heads.primed, fun toplevel => ?_⟩
  rw [window] at toplevel
  obtain ⟨state, role⟩ := isToplevel_iff.mp toplevel
  have heading := heads.heading toplevel
  simpa [heading?, role, Role.mapToplevel, Role.toplevel?, keeps state] using heading

theorem HeadsFor.ack {raw : UInt32} (heads : surface.HeadsFor payload)
    (done : surface.ack raw = .ok after) : after.HeadsFor payload := by
  refine ⟨heads.fitting.ack done, primed_of_ack done, fun toplevel => ?_⟩
  rw [isToplevel, role_ack done, ← isToplevel] at toplevel
  exact (heading?_ack done).trans (heads.heading toplevel)

theorem HeadsFor.commit {commit : Commit} {effect : CommitEffect} (heads : surface.HeadsFor payload)
    (done : surface.commit commit = .ok (after, effect)) (stays : effect ≠ .unmapped) :
    after.HeadsFor payload := by
  refine ⟨heads.fitting.commit done, heads.primed.commit done stays, fun toplevel => ?_⟩
  rw [isToplevel_of_wanted? (wanted?_commit done)] at toplevel
  obtain ⟨state, role⟩ := isToplevel_iff.mp toplevel
  rw [heading?_commit heads.fitting role done, if_neg stays, heads.heading toplevel]

theorem HeadsFor.setPending (heads : surface.HeadsFor payload)
    (change : ToplevelState → ToplevelState) : (surface.setPending change).HeadsFor payload := by
  refine ⟨heads.fitting.setPending change, heads.primed, fun toplevel => ?_⟩
  rw [← wanted?_isSome, wanted?_setPending, Option.isSome_map, wanted?_isSome] at toplevel
  exact (heading?_setPending surface change).trans (heads.heading toplevel)

/-- A call that sends a configure asks for another state than the newest one, and sends that. -/
theorem news_of_proposed {toplevel : Toplevel} {serials next : SerialCounter}
    {change : ToplevelState → ToplevelState} {configure : Configure}
    (role : surface.role = .toplevel toplevel)
    (sent : (surface.setPending change).schedule serials false = some (configure, after, next)) :
    (surface.inflight.getLast?.bind fun configure => configure.payload.toplevel?).or
        (some toplevel.current) ≠ some (change toplevel.pending) ∧
      configure.payload = .toplevel (change toplevel.pending) := by
  obtain ⟨due, -⟩ := schedule_some sent
  constructor
  · intro same
    simp [duePayload?, setPending, role, Role.mapToplevel, latestToplevelState?, Role.toplevel?,
      same] at due
  · refine payload_of_duePayload? due ?_
    rw [wanted?_setPending, wanted?_of_role role, Option.map_some]

/-- **What a window is told next**: the state that is asked for, and it is the one that the client heads
for exactly if the call repeats what was acknowledged. -/
theorem HeadsFor.told_iff {toplevel : Toplevel} {serials next : SerialCounter}
    {change : ToplevelState → ToplevelState} {configure : Configure}
    (heads : surface.HeadsFor payload) (role : surface.role = .toplevel toplevel)
    (sent : (surface.setPending change).schedule serials false = some (configure, after, next)) :
    ∃ former, payload = .toplevel former ∧
      configure.payload = .toplevel (change toplevel.pending) ∧
        (former = change toplevel.pending ↔ surface.Repeats change) := by
  obtain ⟨news, told⟩ := news_of_proposed role sent
  have window := isToplevel_iff.mpr ⟨toplevel, role⟩
  have heading := heads.heading window
  cases newest : surface.inflight.getLast? with
  | some configure =>
    -- the newest configure in flight is what the call was compared with
    obtain ⟨state, proposed⟩ := heads.fitting window configure (.inl (List.mem_of_getLast? newest))
    rw [heading?_of_inflight newest, proposed, Option.some.injEq] at heading
    refine ⟨state, heading.symm, told, fun same => absurd ?_ news, ?_⟩
    · simp [newest, proposed, Payload.toplevel?, same]
    · rintro ⟨_, _, -, none, -⟩
      rw [none] at newest
      cases newest
  | none =>
    have none := List.getLast?_eq_none_iff.mp newest
    have differs : change toplevel.pending ≠ toplevel.current := fun same =>
      news (by simp [newest, same])
    cases acked : surface.acked with
    | some configure =>
      obtain ⟨state, proposed⟩ := heads.fitting window configure (.inr acked)
      rw [heading?_of_acked none acked, proposed, Option.some.injEq] at heading
      refine ⟨state, heading.symm, told, fun same => ?_, ?_⟩
      · exact ⟨toplevel, configure, role, none, acked, proposed.trans (congrArg _ same), differs⟩
      · rintro ⟨state', waiting, window, -, waits, repeated, -⟩
        obtain rfl := Role.toplevel.inj (role.symm.trans window)
        obtain rfl := Option.some.inj (acked.symm.trans waits)
        exact Payload.toplevel.inj (proposed.symm.trans repeated)
    | none =>
      have configured : surface.configured := by
        rcases heads.primed with flying | waits | configured
        · exact absurd none flying
        · rw [acked] at waits
          cases waits
        · exact configured
      rw [heading?_of_settled role none acked, if_pos configured, Option.some.injEq] at heading
      refine ⟨toplevel.current, heading.symm, told, fun same => absurd same.symm differs, ?_⟩
      rintro ⟨_, _, -, -, waits, -⟩
      rw [acked] at waits
      cases waits

end Heading

end Surface

namespace Shell

section Turns

variable {shell : Shell} {id : SurfaceId} {act : Act} {sent : List Configure}

/-- The configures that a window still has to commit stay configures for windows. -/
theorem Turn.fitting {before : Option Surface} {after : Surface}
    (turn : Turn shell id act before (some after) sent)
    (fitting : ∀ surface, before = some surface → surface.Fitting) : after.Fitting := by
  cases turn with
  | rest => exact fitting after rfl
  | window | popup => simp [Surface.Fitting]
  | declareMin size done | declareMax size done =>
    have same := Surface.wanted?_changeToplevel done fun _ => rfl
    refine (fitting _ rfl).of_subset (Surface.isToplevel_of_wanted? same) ?_
    rw [Surface.changeToplevel_ok done]
    exact fun _ member => member
  | ack raw done => exact (fitting _ rfl).ack done
  | commit commit done => exact (fitting _ rfl).commit done
  | invite commit done due => exact ((fitting _ rfl).commit done).schedule due
  | agree => exact (fitting _ rfl).setPending _
  | propose asked due => exact ((fitting _ rfl).setPending _).schedule due

/-- A surface that is sent a configure heads for it. -/
theorem Turn.told {before : Option Surface} {after : Surface} {configure : Configure}
    (turn : Turn shell id act before (some after) [configure])
    (fitting : ∀ surface, before = some surface → surface.Fitting) :
    after.HeadsFor configure.payload := by
  cases turn with
  | invite commit done due => exact .of_schedule ((fitting _ rfl).commit done) due
  | propose asked due => exact .of_schedule ((fitting _ rfl).setPending _) due

/-- A surface that is sent nothing heads where it did before, unless the act unmaps it. -/
theorem Turn.headsFor {surface after : Surface} {payload : Payload}
    (turn : Turn shell id act (some surface) (some after) [])
    (stays : ¬ (surface.mapped ∧ ¬ after.mapped)) (heads : surface.HeadsFor payload) :
    after.HeadsFor payload := by
  cases turn with
  | rest => exact heads
  | declareMin size done | declareMax size done => exact heads.declare done fun _ => rfl
  | ack raw done => exact heads.ack done
  | commit commit done =>
    exact heads.commit done (mt (Surface.effect_unmapped_iff done).mp stays)
  | agree => exact heads.setPending _

end Turns

/-- The configures that windows still have to commit are configures for windows. -/
theorem Reached.fitting {count : Nat} {shell : Shell} (reached : Reached count shell) :
    ∀ id surface, shell.surfaces.get? id = some surface → surface.Fitting := by
  induction reached with
  | fresh => exact fun _ _ found => by cases found
  | act act reached ih =>
    intro id surface found
    obtain ⟨sent, -, turn⟩ := perform_turn reached.roled act id
    rw [found] at turn
    exact turn.fitting (ih id)

/-! ### Two configures in a row -/

/-- **Two configures in a row** for a surface: one act sends the first, a later act sends the second, and
nothing is sent there in between. The surface is neither created anew nor unmapped in between. -/
structure Successive (shell : Shell) (id : SurfaceId) (sending : Act) (between : List Act)
    (again : Act) (first second : Configure) : Prop where
  first : (shell.perform sending).shell.sentTo id = shell.sentTo id ++ [first]
  silent : ((shell.perform sending).shell.performAll between).sentTo id =
    (shell.perform sending).shell.sentTo id
  second : (((shell.perform sending).shell.performAll between).perform again).shell.sentTo id =
    ((shell.perform sending).shell.performAll between).sentTo id ++ [second]
  unbroken : (shell.perform sending).shell.Unbroken id between

/-- An act is a call on the window of a surface, and it repeats what the client has acknowledged. -/
def Repeats (shell : Shell) (id : SurfaceId) (act : Act) : Prop :=
  ∃ surface change, shell.surfaces.get? id = some surface ∧ shell.asked? id act = some change ∧
    surface.Repeats change

/-- As long as its round lasts and nothing else is sent, a surface heads for what it was sent. -/
theorem headsFor_performAll {shell : Shell} {id : SurfaceId} {payload : Payload}
    (roled : shell.Roled)
    (heads : ∀ surface, shell.surfaces.get? id = some surface → surface.HeadsFor payload)
    (acts : List Act) (silent : (shell.performAll acts).sentTo id = shell.sentTo id)
    (unbroken : shell.Unbroken id acts) {surface : Surface}
    (found : (shell.performAll acts).surfaces.get? id = some surface) :
    surface.HeadsFor payload := by
  induction acts using List.reverseRecOn generalizing surface with
  | nil => exact heads surface found
  | append_singleton acts act ih =>
    obtain ⟨before, continues⟩ := unbroken_snoc.mp unbroken
    obtain ⟨earlier, same⟩ := sentTo_performAll roled id acts
    obtain ⟨sent, grows, turn⟩ := perform_turn (performAll_roled roled acts) act id
    rw [performAll_append, performAll_cons, performAll_nil] at silent found
    rw [grows, same, List.append_assoc, List.append_right_eq_self, List.append_eq_nil_iff] at silent
    obtain ⟨rfl, rfl⟩ := silent
    obtain ⟨old, present⟩ := (opens_or_present found).resolve_left continues
    have heading := ih (same.trans (List.append_nil _)) before present
    rw [present, found] at turn
    exact turn.headsFor (turn.stays_mapped present continues found) heading

/-- **When a window is told the same twice.** Two configures in a row that a window is sent, between which
it was neither destroyed nor unmapped, carry the same state exactly if the second one answers a call that
repeats what the client has acknowledged and not yet committed. -/
theorem successive_configures_eq_iff {count : Nat} {shell : Shell} (reached : Reached count shell)
    {id : SurfaceId} {sending again : Act} {between : List Act} {first second : Configure}
    (row : shell.Successive id sending between again first second) {surface : Surface}
    (present : ((shell.perform sending).shell.performAll between).surfaces.get? id = some surface)
    (window : surface.isToplevel) :
    ∃ former latter, first.payload = .toplevel former ∧ second.payload = .toplevel latter ∧
      (former = latter ↔ ((shell.perform sending).shell.performAll between).Repeats id again) := by
  have onward := (Reached.act sending reached).performAll between
  have heads : ∀ told, (shell.perform sending).shell.surfaces.get? id = some told →
      told.HeadsFor first.payload := by
    intro told found
    obtain ⟨sent, grows, turn⟩ := perform_turn reached.roled sending id
    rw [row.first, List.append_cancel_left_eq] at grows
    rw [found, ← grows] at turn
    exact turn.told (reached.fitting id)
  have heading := headsFor_performAll (Reached.act sending reached).roled heads between row.silent
    row.unbroken present
  obtain ⟨toplevel, role⟩ := Surface.isToplevel_iff.mp window
  obtain ⟨sent, grows, turn⟩ := perform_turn onward.roled again id
  rw [row.second, List.append_cancel_left_eq] at grows
  rw [present, ← grows] at turn
  generalize (((shell.perform sending).shell.performAll between).perform again).shell.surfaces.get? id =
    final at turn
  cases turn with
  | invite commit done due =>
    -- a commit sends nothing to a client that has a trace of what it was sent
    have primed := ((Surface.needsConfigure_iff (onward.backed id surface present) done).mp rfl).2
    exact absurd heading.primed primed
  | propose asked due =>
    obtain ⟨former, begins, told, iff⟩ := heading.told_iff role due
    refine ⟨former, _, begins, told, iff.trans ⟨fun repeated => ?_, ?_⟩⟩
    · exact ⟨surface, _, present, asked, repeated⟩
    · rintro ⟨other, wish, there, wished, repeated⟩
      obtain rfl := Option.some.inj (present.symm.trans there)
      obtain rfl := Option.some.inj (asked.symm.trans wished)
      exact repeated

/-- A window that was just created. -/
def newWindow : Shell :=
  (fresh { pingOnCreate := false } .empty 0).performAll [.request (.newToplevel ⟨1⟩)]

/-- The configure that gives a window the focus, under a serial. -/
def focusConfigure (serial : Serial) : Configure :=
  { serial, payload := .toplevel { activated := true } }

/-- A window is given the focus, its client acknowledges that, and it is given the focus again. -/
theorem newWindow_successive :
    newWindow.Successive ⟨1⟩ (.call ⟨1⟩ (.activate true)) [.request (.ack ⟨1⟩ 1)]
      (.call ⟨1⟩ (.activate true)) (focusConfigure .first) (focusConfigure Serial.first.next) where
  first := by decide
  silent := by decide
  second := by decide
  unbroken := by
    refine ⟨?_, trivial⟩
    rintro ⟨_, -, absent | ⟨_, _, same, -⟩⟩
    · cases absent
    · cases same

/-- The second call of this run repeats what was acknowledged. -/
theorem successive_configures_eq_iff_newWindow :
    newWindow.Successive ⟨1⟩ (.call ⟨1⟩ (.activate true)) [.request (.ack ⟨1⟩ 1)]
        (.call ⟨1⟩ (.activate true)) (focusConfigure .first) (focusConfigure Serial.first.next) ∧
      ((newWindow.perform (.call ⟨1⟩ (.activate true))).shell.performAll
        [.request (.ack ⟨1⟩ 1)]).Repeats ⟨1⟩ (.call ⟨1⟩ (.activate true)) := by
  refine ⟨newWindow_successive, ?_⟩
  obtain ⟨former, latter, begins, ends, iff⟩ := successive_configures_eq_iff
    ((Reached.fresh 0 _ _ _).performAll _) newWindow_successive rfl rfl
  exact iff.mp (Payload.toplevel.inj (begins.symm.trans ends))

/-- The window is told the same state twice in a row. -/
theorem repeated_focus_is_told_again :
    ∃ shell sending between again first second surface, Reached 1 shell ∧
      shell.Successive ⟨1⟩ sending between again first second ∧
        ((shell.perform sending).shell.performAll between).surfaces.get? ⟨1⟩ = some surface ∧
          surface.isToplevel ∧ first.payload = second.payload :=
  ⟨newWindow, _, _, _, _, _, _, (Reached.fresh 0 _ _ _).performAll [_], newWindow_successive, rfl, rfl,
    rfl⟩

end Shell

end WindowShell
