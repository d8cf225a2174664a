/-
**Surfaces in any hands.**

The shell handles a surface in a certain order, but nothing a surface guarantees depends on that order.
Any number of surfaces may share one serial counter, and their operations may come in any order: hidden
surfaces are committed again, configures are sent before anybody asked for one, a role is given twice. As
long as the counter has not run out, a surface keeps one queue of ascending serials, and each of its
fields vouches for the next one:

* `Surface.Handled`, `Surface.operate_handled`: what an operation can make of a surface;
* `Surface.Intact.handled`: the invariant of one surface, kept by every operation on it;
* `Fleet.Intact.perform`, `Fleet.Intact.performAll`: kept by a stroke and by a run of a whole fleet;
* `Fleet.performAll_role`: a role lasts;
* `surfaces_stay_well_formed`: all of it, and what a commit reports.
-/

import WindowShell.Proofs.Outstanding

namespace WindowShell

/-- A payload that suits a role: a window is told its state, and a popup its place. -/
def Payload.Fits : Payload → Role → Prop
  | .toplevel _, .toplevel _ => True
  | .popup told, .popup _ place => told = place
  | _, _ => False

/-- What may be done with a surface. -/
inductive Operation
  | assign (role : Role)
  | declareMin (size : Extent)
  | declareMax (size : Extent)
  /-- Changes what the compositor wants a window to be. -/
  | setPending (change : ToplevelState → ToplevelState)
  | schedule (force : Bool)
  | ack (raw : UInt32)
  | commit (commit : Commit)
  | hide

namespace Surface

/-- The surface and the counter after an operation, also after one that is refused. -/
def operate (surface : Surface) (serials : SerialCounter) : Operation → Surface × SerialCounter
  | .assign role => (((SurfaceM.assignRole role).runOn surface).2, serials)
  | .declareMin size => (((SurfaceM.setMinSize size).runOn surface).2, serials)
  | .declareMax size => (((SurfaceM.setMaxSize size).runOn surface).2, serials)
  | .setPending change => (surface.setPending change, serials)
  | .schedule force => ((surface.schedule serials force).map Prod.snd).getD (surface, serials)
  | .ack raw => (((SurfaceM.ack raw).runOn surface).2, serials)
  | .commit commit => (((SurfaceM.commit commit).runOn surface).2, serials)
  | .hide => (surface.hide, serials)

/-- How many serials an operation takes. -/
def takes (surface : Surface) : Operation → Nat
  | .schedule force => if (surface.duePayload? force).isSome then 1 else 0
  | _ => 0

/-- **A surface whose fields agree with each other.** -/
structure WellFormed (surface : Surface) : Prop where
  /-- What is in flight ascends. -/
  ascending : surface.inflight.Pairwise fun first second => first.serial < second.serial
  /-- What is in flight suits the role. -/
  fits : ∀ configure ∈ surface.inflight, configure.payload.Fits surface.role
  /-- What is in flight is newer than what is acknowledged. -/
  ahead : ∀ acked, surface.acked = some acked →
    ∀ configure ∈ surface.inflight, acked.serial < configure.serial
  /-- What is acknowledged is newer than what is committed. -/
  behind : ∀ acked caught, surface.acked = some acked → surface.configureSerial = some caught →
    caught < acked.serial
  /-- A visible surface holds a buffer. -/
  buffered : surface.mapped → surface.buffer.isSome
  /-- A surface that holds a buffer is configured. -/
  configured : surface.buffer.isSome → surface.configured
  /-- A configured surface has committed a configure. -/
  committed : surface.configured → surface.configureSerial.isSome

/-- What an operation can make of a surface and of the counter, and how many serials it takes. -/
inductive Handled (surface : Surface) (serials : SerialCounter) :
    Nat → Surface → SerialCounter → Prop
  | rest : Handled surface serials 0 surface serials
  | assigned (role : Role) (unset : surface.role = .unset) :
      Handled surface serials 0 { surface with role } serials
  | edited (change : Toplevel → Toplevel) :
      Handled surface serials 0 { surface with role := surface.role.mapToplevel change } serials
  | sent {force : Bool} {configure : Configure} {after : Surface} {next : SerialCounter}
      (sent : surface.schedule serials force = some (configure, after, next)) :
      Handled surface serials 1 after next
  | acked {raw : UInt32} {after : Surface} (done : surface.ack raw = .ok after) :
      Handled surface serials 0 after serials
  | committed {commit : Commit} {after : Surface} {effect : CommitEffect}
      (done : surface.commit commit = .ok (after, effect)) : Handled surface serials 0 after serials
  | hidden : Handled surface serials 0 surface.hide serials

/-! ### Operations -/

section Operations

variable {surface after : Surface} {serials next : SerialCounter} {taken : Nat}

theorem assignRole_ok {role : Role} (done : surface.assignRole role = .ok after) :
    surface.role = .unset ∧ after = { surface with role } := by
  rw [assignRole_eq] at done
  split at done
  · next unset => exact ⟨unset, (Except.ok.inj done).symm⟩
  · cases done

/-- What is refused leaves the surface as it was. -/
theorem asked_handled {α : Type} {act : SurfaceM α} (careful : act.Careful)
    (taken : ∀ after value, surface.answer act = .ok (after, value) →
      Handled surface serials 0 after serials) :
    Handled surface serials 0 (act.runOn surface).2 serials := by
  rw [SurfaceM.runOn_of_careful surface careful]
  cases done : surface.answer act with
  | error refusal => exact .rest
  | ok result => exact taken result.1 result.2 done

theorem changeToplevel_handled (change : Toplevel → Toplevel) :
    Handled surface serials 0 ((SurfaceM.changeToplevel change).runOn surface).2 serials :=
  asked_handled (by simp) fun after value done => by
    rw [changeToplevel_ok (obey_of_answer done)]
    exact .edited change

/-- **An operation does to a surface one of the things listed.** -/
theorem operate_handled (surface : Surface) (serials : SerialCounter) (operation : Operation) :
    Handled surface serials (surface.takes operation) (surface.operate serials operation).1
      (surface.operate serials operation).2 := by
  cases operation with
  | assign role =>
    refine asked_handled (SurfaceM.assignRole_careful role) fun after value done => ?_
    obtain ⟨unset, rfl⟩ := assignRole_ok (obey_of_answer done)
    exact .assigned role unset
  | declareMin size | declareMax size => exact changeToplevel_handled _
  | setPending change => exact .edited _
  | schedule force =>
    simp only [takes, operate]
    cases sent : surface.schedule serials force with
    | none =>
      rw [schedule_eq_none_iff.mp sent]
      exact .rest
    | some told =>
      rw [(schedule_some sent).1]
      exact .sent sent
  | ack raw =>
    exact asked_handled (SurfaceM.ack_careful raw) fun after value done => .acked (obey_of_answer done)
  | commit commit =>
    exact asked_handled (SurfaceM.commit_careful commit) fun after value done => .committed done
  | hide => exact .hidden

/-- The counter moves on by what an operation takes, while there are serials left. -/
theorem Handled.number (handled : Handled surface serials taken after next)
    (below : serials.next.number + taken < 2 ^ 32) :
    next.next.number = serials.next.number + taken := by
  cases handled with
  | sent sent =>
    obtain ⟨-, -, -, counted⟩ := schedule_some sent
    rw [counted]
    exact Serial.number_next below
  | _ => rfl

/-! ### Payloads and roles -/

theorem fits_congr {payload : Payload} {first second : Role} (same : first.bare = second.bare) :
    payload.Fits first ↔ payload.Fits second := by
  cases payload <;> cases first <;> cases second <;> simp_all [Payload.Fits, Role.bare]

theorem fits_of_due {force : Bool} {payload : Payload}
    (due : surface.duePayload? force = some payload) : payload.Fits surface.role := by
  unfold duePayload? at due
  split at due
  · cases due
  · split at due
    · cases due
    · next toplevel role _ =>
      cases due
      rw [role]
      trivial
  · next place role =>
    split at due
    · cases due
      rw [role]
      rfl
    · cases due

/-- **A role that is set stays what it is.** -/
theorem Handled.role (handled : Handled surface serials taken after next) (roled : surface.role ≠ .unset) :
    after.role.bare = surface.role.bare := by
  cases handled with
  | rest | hidden => rfl
  | assigned role unset => exact absurd unset roled
  | edited change => exact Role.bare_mapToplevel _ _
  | sent sent =>
    obtain ⟨-, -, rfl, -⟩ := schedule_some sent
    rfl
  | acked done => rw [role_ack done]
  | committed done => exact bare_commit done

/-! ### The invariant of one surface -/

/-- What holds of a surface in any hands, where `next` is the number handed out next. -/
structure Intact (surface : Surface) (next : Nat) : Prop where
  /-- The serials of the surface ascend. -/
  ordered : surface.InOrder next
  fits : ∀ configure ∈ surface.inflight, configure.payload.Fits surface.role
  buffered : surface.mapped → surface.buffer.isSome
  configured : surface.buffer.isSome → surface.configured
  committed : surface.configured → surface.configureSerial.isSome

theorem intact_fresh (next : Nat) : ({} : Surface).Intact next where
  ordered := List.pairwise_singleton _ _
  fits _ member := by cases member
  buffered mapped := by cases mapped
  configured held := by cases held
  committed configured := by cases configured

theorem Intact.mono {number more : Nat} (intact : surface.Intact number) (enough : number ≤ more) :
    surface.Intact more :=
  { intact with ordered := intact.ordered.mono enough }

/-- What a commit latches is still sound, whatever becomes of its visibility. -/
theorem Intact.latched {number : Nat} {commit : Commit} (intact : surface.Intact number)
    (early : surface.attachesTooEarly commit = false) :
    let latched := surface.latchAck.latchContent commit
    (latched.buffer.isSome → latched.configured) ∧
      (latched.configured → latched.configureSerial.isSome) := by
  have kept : surface.configured → (surface.latchAck.latchContent commit).configured := fun holds =>
    latch_configured holds commit
  refine ⟨fun holds => ?_, fun configured => ?_⟩
  · cases change : commit.buffer with
    | keep =>
      rw [latchContent, latchAck_buffer, change] at holds
      exact kept (intact.configured holds)
    | attach size =>
      -- a buffer is let in once something was acknowledged, now or before
      rw [attachesTooEarly, change] at early
      cases acked : surface.acked with
      | some configure => simp [latchContent, latchAck, acked]
      | none => exact kept (by simpa [acked] using early)
    | remove =>
      rw [latchContent, change] at holds
      cases holds
  · cases acked : surface.acked with
    | some configure => simp [latchContent, latchAck, acked]
    | none =>
      rw [latchContent, latchAck, acked] at configured ⊢
      exact intact.committed configured

theorem Intact.commit {number : Nat} {commit : Commit} {effect : CommitEffect}
    (intact : surface.Intact number) (done : surface.commit commit = .ok (after, effect)) :
    after.Intact number := by
  obtain ⟨-, early, settled⟩ := commit_ok done
  obtain ⟨configured, committed⟩ := intact.latched early
  have fits : ∀ configure ∈ after.inflight, configure.payload.Fits after.role := by
    intro configure member
    rw [inflight_commit done] at member
    split at member
    · cases member
    · exact (fits_congr (bare_commit done)).mpr (intact.fits configure member)
  obtain ⟨rfl, rfl⟩ | ⟨-, held, rfl⟩ := settle_cases settled
  · -- the surface starts over without a buffer
    have lost := (settle_unmapped settled).2
    exact {
      ordered := intact.ordered.commit done
      fits
      buffered := fun visible => by cases visible
      configured := fun holds => by rw [lost] at holds; cases holds
      committed := fun starts => by cases starts }
  · refine { ordered := intact.ordered.commit done, fits, buffered := ?_, configured, committed }
    intro visible
    rcases Bool.or_eq_true_iff.mp visible with before | now
    · exact held before
    · exact (Bool.and_eq_true_iff.mp now).2

/-- **Every operation keeps a surface intact**, while there are serials left. -/
theorem Intact.handled (intact : surface.Intact serials.next.number)
    (handled : Handled surface serials taken after next)
    (below : serials.next.number + taken < 2 ^ 32) : after.Intact next.next.number := by
  cases handled with
  | rest => exact intact
  | hidden => exact { intact with buffered := fun visible => by cases visible }
  | assigned role unset =>
    -- nothing suits a surface without a role, so nothing was in flight
    refine { intact with fits := fun configure member => ?_ }
    have suits := intact.fits configure member
    rw [unset] at suits
    cases payload : configure.payload <;> rw [payload] at suits <;> exact suits.elim
  | edited change =>
    refine { intact with fits := fun configure member => ?_ }
    exact (fits_congr (Role.bare_mapToplevel _ _)).mpr (intact.fits configure member)
  | sent sent =>
    have ordered := intact.ordered.schedule sent below
    obtain ⟨due, -, rfl, -⟩ := schedule_some sent
    have suits := fits_of_due due
    refine { intact with ordered, fits := fun configure member => ?_ }
    rcases List.mem_append.mp member with old | new
    · exact intact.fits configure old
    · rw [List.mem_singleton.mp new]
      exact suits
  | acked done =>
    have ordered := intact.ordered.ack done
    obtain ⟨passed, acked, rest, split, -, rfl⟩ := ack_split done
    refine { intact with ordered, fits := fun configure member => ?_ }
    exact intact.fits configure (split ▸ by simp [member])
  | committed done => exact intact.commit done

theorem Intact.wellFormed {number : Nat} (intact : surface.Intact number) : surface.WellFormed where
  ascending := intact.ordered.inflight
  fits := intact.fits
  ahead _ answered _ member := intact.ordered.acked_lt answered member
  behind _ _ answered caught := intact.ordered.committed_lt caught answered
  buffered := intact.buffered
  configured := intact.configured
  committed := intact.committed

/-- What a successful commit leaves behind, and what it reports. -/
structure Reports (surface after : Surface) (effect : CommitEffect) : Prop where
  /-- Nothing that is acknowledged is left to be committed. -/
  settled : after.acked = none
  mapped : effect = .mapped ↔ surface.mapped = false ∧ after.mapped = true
  unmapped : effect = .unmapped ↔ surface.mapped = true ∧ after.mapped = false
  /-- A surface that waits for its first configure did not change its visibility. -/
  waiting : effect = .needsConfigure → after.mapped = surface.mapped

theorem commit_reports {commit : Commit} {effect : CommitEffect}
    (done : surface.commit commit = .ok (after, effect)) : Reports surface after effect := by
  have tells := commit_effect done
  refine ⟨(configureSerial_commit done).2, ?_, ?_, ?_⟩ <;>
    cases effect <;> simp_all [CommitEffect.Tells]

end Operations

end Surface

/-! ### Fleets -/

/-- Any number of surfaces and the counter they share. -/
structure Fleet (κ : Type) where
  surfaces : κ → Surface := fun _ => {}
  serials : SerialCounter := {}

/-- Something done to one surface of a fleet, or a serial taken for something else. -/
inductive Stroke (κ : Type)
  | on (key : κ) (operation : Operation)
  | take

namespace Fleet

variable {κ : Type} [DecidableEq κ] {fleet : Fleet κ}

/-- The fleet after a stroke. -/
def perform (fleet : Fleet κ) : Stroke κ → Fleet κ
  | .on key operation =>
    let (surface, serials) := (fleet.surfaces key).operate fleet.serials operation
    { surfaces := Function.update fleet.surfaces key surface, serials }
  | .take => { fleet with serials := fleet.serials.allocate.2 }

/-- The fleet after strokes, one after the other. -/
def performAll (fleet : Fleet κ) (strokes : List (Stroke κ)) : Fleet κ := strokes.foldl perform fleet

/-- How many serials a stroke takes. -/
def takes (fleet : Fleet κ) : Stroke κ → Nat
  | .on key operation => (fleet.surfaces key).takes operation
  | .take => 1

/-- How many serials strokes take. -/
def takesAll (fleet : Fleet κ) : List (Stroke κ) → Nat
  | [] => 0
  | stroke :: strokes => fleet.takes stroke + (fleet.perform stroke).takesAll strokes

/-- Every surface of the fleet is intact. -/
def Intact (fleet : Fleet κ) : Prop :=
  ∀ key, (fleet.surfaces key).Intact fleet.serials.next.number

/-- A surface after a stroke is as it was before, or the stroke was an operation on it. -/
theorem perform_surface (fleet : Fleet κ) (stroke : Stroke κ) (key : κ) :
    (fleet.perform stroke).surfaces key = fleet.surfaces key ∨
      Surface.Handled (fleet.surfaces key) fleet.serials (fleet.takes stroke)
        ((fleet.perform stroke).surfaces key) (fleet.perform stroke).serials := by
  cases stroke with
  | take => exact .inl rfl
  | on handled operation =>
    by_cases same : key = handled
    · subst same
      have result := Surface.operate_handled (fleet.surfaces key) fleet.serials operation
      exact .inr (by simpa [perform, takes] using result)
    · exact .inl (Function.update_of_ne same _ _)

/-- The counter moves on by what a stroke takes, while there are serials left. -/
theorem perform_number {stroke : Stroke κ}
    (below : fleet.serials.next.number + fleet.takes stroke < 2 ^ 32) :
    (fleet.perform stroke).serials.next.number =
      fleet.serials.next.number + fleet.takes stroke := by
  cases stroke with
  | take => exact Serial.number_next below
  | on key operation =>
    exact (Surface.operate_handled (fleet.surfaces key) fleet.serials operation).number below

/-- **A stroke keeps a fleet intact.** -/
theorem Intact.perform (intact : fleet.Intact) {stroke : Stroke κ}
    (below : fleet.serials.next.number + fleet.takes stroke < 2 ^ 32) :
    (fleet.perform stroke).Intact := by
  intro key
  rcases perform_surface fleet stroke key with same | handled
  · rw [same, perform_number below]
    exact (intact key).mono (Nat.le_add_right _ _)
  · exact (intact key).handled handled below

/-- **A run keeps a fleet intact**, while there are serials left. -/
theorem Intact.performAll (intact : fleet.Intact) {strokes : List (Stroke κ)}
    (below : fleet.serials.next.number + fleet.takesAll strokes < 2 ^ 32) :
    (fleet.performAll strokes).Intact := by
  induction strokes generalizing fleet with
  | nil => exact intact
  | cons stroke strokes ih =>
    rw [takesAll, ← Nat.add_assoc] at below
    have room : fleet.serials.next.number + fleet.takes stroke < 2 ^ 32 :=
      Nat.lt_of_le_of_lt (Nat.le_add_right _ _) below
    exact ih (intact.perform room) (perform_number room ▸ below)

/-- **A role lasts**: no run takes it away or makes another one of it. -/
theorem performAll_role {key : κ} (roled : (fleet.surfaces key).role ≠ .unset)
    (strokes : List (Stroke κ)) :
    ((fleet.performAll strokes).surfaces key).role.bare = (fleet.surfaces key).role.bare := by
  induction strokes generalizing fleet with
  | nil => rfl
  | cons stroke strokes ih =>
    have same : ((fleet.perform stroke).surfaces key).role.bare = (fleet.surfaces key).role.bare := by
      rcases perform_surface fleet stroke key with same | handled
      · rw [same]
      · exact handled.role roled
    have still : ((fleet.perform stroke).surfaces key).role ≠ .unset := fun unset => by
      rw [unset] at same
      cases role : (fleet.surfaces key).role <;> simp_all [Role.bare]
    exact (ih still).trans same

/-- **Surfaces stay well formed, whoever handles them.** Surfaces that share a counter undergo any
operations in any order, which take fewer than `2 ^ 32 - 1` serials. Then every surface is well formed, a
role it has is a role it keeps, and a commit that succeeds leaves nothing acknowledged behind and reports
what it did to the visibility. -/
theorem surfaces_stay_well_formed (strokes : List (Stroke κ))
    (few : ({} : Fleet κ).takesAll strokes < 2 ^ 32 - 1) (key : κ) :
    let surface := (({} : Fleet κ).performAll strokes).surfaces key
    surface.WellFormed ∧
      (surface.role ≠ .unset → ∀ later,
        ((({} : Fleet κ).performAll (strokes ++ later)).surfaces key).role.bare =
          surface.role.bare) ∧
      ∀ commit after effect, surface.commit commit = .ok (after, effect) →
        surface.Reports after effect := by
  have fresh : ({} : Fleet κ).Intact := fun _ => Surface.intact_fresh _
  have room : ({} : Fleet κ).serials.next.number + ({} : Fleet κ).takesAll strokes < 2 ^ 32 := by
    show 1 + _ < 2 ^ 32
    omega
  refine ⟨(fresh.performAll room key).wellFormed, fun roled later => ?_, fun _ _ _ done =>
    Surface.commit_reports done⟩
  rw [performAll, List.foldl_append]
  exact performAll_role roled later

/-- A window that is configured before it has a role, made a popup as well, and hidden while it is shown,
beside a popup that is told its place. -/
def mishandled : List (Stroke Bool) :=
  [ .on true (.schedule true), .on true (.assign (.toplevel {})), .take,
    .on false (.assign (.popup ⟨1⟩ {})), .on false (.schedule true), .on true (.schedule false),
    .on true (.schedule true), .on true (.setPending fun state => { state with activated := true }),
    .on true (.schedule false), .on true (.assign (.popup ⟨1⟩ {})), .on true (.ack 3),
    .on true (.commit { buffer := .attach { width := 100, height := 100 } }), .on true .hide,
    .on true (.ack 4) ]

/-- The next commit shows the window again. It is a window still, whatever it is asked to become. -/
theorem surfaces_stay_well_formed_mishandled :
    let surface := (({} : Fleet Bool).performAll mishandled).surfaces true
    surface.WellFormed ∧ surface.configureSerial.map Serial.number = some 3 ∧
      surface.acked.map (Serial.number ∘ Configure.serial) = some 4 ∧
      (∀ later, ((({} : Fleet Bool).performAll (mishandled ++ later)).surfaces true).role.bare =
        .toplevel {}) ∧
      ∃ after, surface.commit {} = .ok (after, .mapped) ∧ surface.Reports after .mapped := by
  obtain ⟨formed, lasting, reports⟩ := surfaces_stay_well_formed mishandled (by decide) true
  exact ⟨formed, by decide, by decide, lasting (by decide), _, rfl, reports {} _ _ rfl⟩

end Fleet

end WindowShell
