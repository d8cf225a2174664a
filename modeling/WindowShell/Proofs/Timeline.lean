/-
**Serials along the way of a surface.**

Every configure passes through three places: it is in flight, then acknowledged, then committed. Older
ones are further along, so read in that order the serials of a surface ascend, up to the serial that is
handed out next. A view that waits for a serial waits for something on this way: either there is that
serial or a later one, or the surface was unmapped and its client has to start over, and then everything
that is still to come is later:

* `Surface.InOrder`, `Surface.Shown`, `Turn.timed`: the serials of a surface ascend, and a visible
  surface is configured and holds a buffer;
* `Surface.Answers`, `Turn.answers`: what a view waits for is on its way;
* `awaited_cases`: what a view waits for after an act, it waited for before, or the act sent it;
* `Reached.timely`: all of it, in fewer acts than there are serials.
-/

import Mathlib.Order.Defs.PartialOrder
import WindowShell.Proofs.Placement
import WindowShell.Proofs.Posting

namespace WindowShell

namespace Serial

/-- The number of a serial. -/
def number (serial : Serial) : Nat := serial.val.toNat

theorem le_iff {first second : Serial} : first ≤ second ↔ first.number ≤ second.number :=
  UInt32.le_iff_toNat_le

theorem lt_iff {first second : Serial} : first < second ↔ first.number < second.number :=
  UInt32.lt_iff_toNat_lt

instance : Preorder Serial where
  le_refl _ := le_iff.mpr (Nat.le_refl _)
  le_trans _ _ _ earlier later := le_iff.mpr (Nat.le_trans (le_iff.mp earlier) (le_iff.mp later))
  lt_iff_le_not_ge _ _ := by rw [lt_iff, le_iff, le_iff, Nat.lt_iff_le_and_not_ge]

/-- Below the largest serial the next one is one greater. -/
theorem number_next {serial : Serial} (below : serial.number + 1 < 2 ^ 32) :
    serial.next.number = serial.number + 1 := by
  have sum : (serial.val + 1).toNat = serial.number + 1 :=
    Shell.toNat_succ (Nat.le_refl serial.number) below
  have nonzero : serial.val + 1 ≠ 0 := fun zero => by
    rw [zero] at sum
    cases sum
  rw [next, dif_pos nonzero, number, sum]

end Serial

namespace Surface

/-- The serials of a surface: committed, acknowledged and in flight. -/
def numbers (surface : Surface) : List Nat :=
  (surface.configureSerial.toList ++ (surface.acked.map Configure.serial).toList ++
    surface.inflight.map Configure.serial).map Serial.number

/-- The serials of a surface ascend, and the one that is handed out next comes after them. -/
def InOrder (surface : Surface) (next : Nat) : Prop :=
  (surface.numbers ++ [next]).Pairwise (· < ·)

/-- A visible surface is configured and holds a buffer. -/
def Shown (surface : Surface) : Prop :=
  surface.mapped → surface.configured ∧ surface.buffer.isSome

/-- A serial or a later one is on its way, or the client has to start over. -/
def Answers (surface : Surface) (awaited : Serial) : Prop :=
  (∃ number ∈ surface.numbers, awaited.number ≤ number) ∨
    surface.configured = false ∧ surface.inflight = [] ∧ surface.acked = none

/-! ### The serials of a surface -/

theorem InOrder.mono {surface : Surface} {next more : Nat} (ordered : surface.InOrder next)
    (enough : next ≤ more) : surface.InOrder more := by
  obtain ⟨ascend, -, below⟩ := List.pairwise_append.mp ordered
  refine List.pairwise_append.mpr ⟨ascend, List.pairwise_singleton _ _, fun number member => ?_⟩
  intro bound same
  rw [List.mem_singleton.mp same]
  exact Nat.lt_of_lt_of_le (below number member next List.mem_cons_self) enough

theorem InOrder.of_sublist {surface after : Surface} {next : Nat} (ordered : surface.InOrder next)
    (fewer : after.numbers.Sublist surface.numbers) : after.InOrder next :=
  List.Pairwise.sublist (fewer.append_right [next]) ordered

theorem numbers_schedule {surface after : Surface} {serials next : SerialCounter} {force : Bool}
    {configure : Configure}
    (sent : surface.schedule serials force = some (configure, after, next)) :
    after.numbers = surface.numbers ++ [serials.next.number] := by
  obtain ⟨-, serial, rfl, -⟩ := schedule_some sent
  simp [numbers, serial]

/-- An acknowledgement forgets what comes before it on the way. -/
theorem numbers_ack {surface after : Surface} {raw : UInt32} (done : surface.ack raw = .ok after) :
    ∃ settled passed acked rest, surface.numbers = settled ++ passed ++ acked :: rest ∧
      after.numbers = settled ++ acked :: rest := by
  obtain ⟨passed, acked, rest, split, -, rfl⟩ := ack_split done
  refine ⟨surface.configureSerial.toList.map Serial.number,
    ((surface.acked.map Configure.serial).toList ++ passed.map Configure.serial).map Serial.number,
    acked.serial.number, (rest.map Configure.serial).map Serial.number, ?_, ?_⟩
  · conv_lhs => rw [numbers, split]
    simp
  · simp [numbers]

/-- A commit forgets what was committed before, if something was acknowledged. -/
theorem numbers_latch (surface : Surface) (commit : Commit) :
    ∃ settled rest, surface.numbers = settled ++ rest ∧
      (surface.latchAck.latchContent commit).numbers = rest ∧ (settled ≠ [] → rest ≠ []) := by
  cases acked : surface.acked with
  | none => exact ⟨[], surface.numbers, rfl, by simp [numbers, latchContent, latchAck, acked], by simp⟩
  | some configure =>
    exact ⟨surface.configureSerial.toList.map Serial.number,
      configure.serial.number :: (surface.inflight.map Configure.serial).map Serial.number,
      by simp [numbers, acked], by simp [numbers, latchContent, latchAck, acked], by simp⟩

/-- Settling unmaps the surface, or it touches visibility only. -/
theorem settle_cases {surface after : Surface} {effect : CommitEffect}
    (settled : surface.settle = (after, effect)) :
    effect = .unmapped ∧ after = { surface with
        mapped := false, configured := false, geometry := none, inflight := [] } ∨
      effect ≠ .unmapped ∧ (surface.mapped → surface.buffer.isSome) ∧
        after = { surface with
          mapped := surface.mapped || (surface.configured && surface.buffer.isSome) } := by
  unfold settle at settled
  split at settled
  · cases settled
    exact .inl ⟨rfl, rfl⟩
  · next stays =>
    have held : surface.mapped → surface.buffer.isSome := fun mapped => by
      cases buffer : surface.buffer with
      | none => exact absurd (by simp [mapped, buffer]) stays
      | some size => rfl
    refine .inr ?_
    split at settled
    · next shows =>
      cases settled
      simp only [Bool.and_eq_true, Bool.not_eq_true'] at shows
      exact ⟨by simp, held, by simp [shows]⟩
    · next hides =>
      have same : (surface.mapped || (surface.configured && surface.buffer.isSome)) =
          surface.mapped := by
        cases mapped : surface.mapped
        · simpa [mapped] using hides
        · rfl
      split at settled <;> cases settled <;> exact ⟨by simp, held, by rw [same]⟩

theorem InOrder.ack {surface after : Surface} {raw : UInt32} {next : Nat}
    (ordered : surface.InOrder next) (done : surface.ack raw = .ok after) : after.InOrder next := by
  obtain ⟨settled, passed, acked, rest, before, later⟩ := numbers_ack done
  refine ordered.of_sublist ?_
  rw [before, later, List.append_assoc]
  exact (List.sublist_append_right passed _).append_left settled

theorem InOrder.commit {surface after : Surface} {commit : Commit} {effect : CommitEffect}
    {next : Nat} (ordered : surface.InOrder next)
    (done : surface.commit commit = .ok (after, effect)) : after.InOrder next := by
  obtain ⟨-, -, settled⟩ := commit_ok done
  obtain ⟨old, rest, before, latched, -⟩ := numbers_latch surface commit
  have fewer : (surface.latchAck.latchContent commit).numbers.Sublist surface.numbers := by
    rw [before, latched]
    exact List.sublist_append_right old rest
  refine ordered.of_sublist (.trans ?_ fewer)
  rcases settle_cases settled with ⟨-, rfl⟩ | ⟨-, -, rfl⟩
  · simp [numbers]
  · exact .refl _

theorem InOrder.schedule {surface after : Surface} {serials next : SerialCounter} {force : Bool}
    {configure : Configure} (ordered : surface.InOrder serials.next.number)
    (sent : surface.schedule serials force = some (configure, after, next))
    (below : serials.next.number + 1 < 2 ^ 32) : after.InOrder next.next.number := by
  obtain ⟨-, -, -, counted⟩ := schedule_some sent
  have later : next.next.number = serials.next.number + 1 := by
    rw [counted]
    exact Serial.number_next below
  refine List.pairwise_append.mpr ⟨numbers_schedule sent ▸ ordered, List.pairwise_singleton _ _, ?_⟩
  rw [numbers_schedule sent, later]
  intro number member bound same
  obtain ⟨-, -, before⟩ := List.pairwise_append.mp ordered
  rw [List.mem_singleton.mp same]
  rcases List.mem_append.mp member with old | new
  · exact Nat.lt_succ_of_lt (before number old _ List.mem_cons_self)
  · rw [List.mem_singleton.mp new]
    exact Nat.lt_succ_self _

/-! ### Visible surfaces -/

@[simp] theorem latch_mapped (surface : Surface) (commit : Commit) :
    (surface.latchAck.latchContent commit).mapped = surface.mapped := by
  rw [latchContent, latchAck]
  split <;> rfl

theorem latch_configured {surface : Surface} (configured : surface.configured) (commit : Commit) :
    (surface.latchAck.latchContent commit).configured := by
  rw [latchContent_configured, latchAck]
  split
  · exact configured
  · rfl

theorem Shown.commit {surface after : Surface} {commit : Commit} {effect : CommitEffect}
    (shown : surface.Shown) (done : surface.commit commit = .ok (after, effect)) : after.Shown := by
  obtain ⟨-, -, settled⟩ := commit_ok done
  rcases settle_cases settled with ⟨-, rfl⟩ | ⟨-, held, rfl⟩
  · exact fun visible => by cases visible
  · intro visible
    simp only [Bool.or_eq_true, Bool.and_eq_true] at visible
    rcases visible with already | now
    · exact ⟨latch_configured (shown (latch_mapped surface commit ▸ already)).1 commit, held already⟩
    · exact now

/-! ### What a view waits for -/

theorem Answers.ack {surface after : Surface} {raw : UInt32} {next : Nat} {awaited : Serial}
    (answers : surface.Answers awaited) (ordered : surface.InOrder next)
    (done : surface.ack raw = .ok after) : after.Answers awaited := by
  obtain ⟨settled, passed, acked, rest, before, later⟩ := numbers_ack done
  rcases answers with ⟨number, member, enough⟩ | ⟨-, none, -⟩
  · obtain ⟨ascend, -, -⟩ := List.pairwise_append.mp ordered
    rw [before] at member ascend
    rw [Answers, later]
    rcases List.mem_append.mp member with early | late
    · have less := (List.pairwise_append.mp ascend).2.2 number early acked List.mem_cons_self
      exact .inl ⟨acked, by simp, by omega⟩
    · exact .inl ⟨number, List.mem_append_right settled late, enough⟩
  · obtain ⟨_, _, found, -⟩ := ack_ok done
    rw [none] at found
    cases found

theorem Answers.commit {surface after : Surface} {commit : Commit} {effect : CommitEffect}
    {next : Nat} {awaited : Serial} (answers : surface.Answers awaited)
    (ordered : surface.InOrder next) (done : surface.commit commit = .ok (after, effect)) :
    after.Answers awaited := by
  obtain ⟨-, -, settled⟩ := commit_ok done
  obtain ⟨old, rest, before, latched, leaves⟩ := numbers_latch surface commit
  rcases settle_cases settled with ⟨-, rfl⟩ | ⟨-, -, rfl⟩
  · exact .inr ⟨rfl, rfl, latchAck_acked surface⟩
  · have still : (surface.latchAck.latchContent commit).Answers awaited := by
      rcases answers with ⟨number, member, enough⟩ | ⟨unconfigured, none, unacked⟩
      · obtain ⟨ascend, -, -⟩ := List.pairwise_append.mp ordered
        rw [before] at member ascend
        rw [Answers, latched]
        rcases List.mem_append.mp member with early | late
        · obtain ⟨next, _, rfl⟩ := List.exists_cons_of_ne_nil (leaves (List.ne_nil_of_mem early))
          have less := (List.pairwise_append.mp ascend).2.2 number early next List.mem_cons_self
          exact .inl ⟨next, List.mem_cons_self, by omega⟩
        · exact .inl ⟨number, late, enough⟩
      · exact .inr ⟨by simpa [latchAck, unacked] using unconfigured, by simpa using none,
          latchAck_acked surface⟩
    exact still

theorem Answers.schedule {surface after : Surface} {serials next : SerialCounter} {force : Bool}
    {configure : Configure} {awaited : Serial} (early : awaited.number ≤ serials.next.number)
    (sent : surface.schedule serials force = some (configure, after, next)) :
    after.Answers awaited :=
  .inl ⟨serials.next.number, by rw [numbers_schedule sent]; simp, early⟩

/-- What holds of every surface at any time. -/
structure Timed (surface : Surface) (next : Nat) : Prop where
  /-- Its serials ascend. -/
  ordered : surface.InOrder next
  /-- If it is visible, it is configured and holds a buffer. -/
  shown : surface.Shown

end Surface

namespace Shell

/-! ### The serials of a shell -/

/-- Where messages are posted, at most one serial is taken. -/
theorem Posts.number {before after : Shell} (posts : Posts before after)
    (below : before.serials.next.number + 1 < 2 ^ 32) :
    before.serials.next.number ≤ after.serials.next.number ∧
      after.serials.next.number ≤ before.serials.next.number + 1 := by
  obtain ⟨_, -, ⟨same, -⟩ | ⟨next, -⟩⟩ := posts
  · rw [same]
    omega
  · rw [next, SerialCounter.allocate, Serial.number_next below]
    omega

/-! ### What an act leaves of the timeline -/

section Acts

variable {shell : Shell} {id : SurfaceId} {act : Act} {sent : List Configure}

/-- Every surface stays in time. -/
theorem Turn.timed {before : Option Surface} {after : Surface}
    (turn : Turn shell id act before (some after) sent) (roled : shell.Roled)
    (timed : ∀ surface, before = some surface → surface.Timed shell.serials.next.number)
    (below : shell.serials.next.number + 1 < 2 ^ 32) :
    after.Timed (shell.perform act).shell.serials.next.number := by
  have later := ((perform_posts roled act).number below).1
  have kept : ∀ {surface : Surface}, surface.Timed shell.serials.next.number →
      surface.Timed (shell.perform act).shell.serials.next.number := fun timed =>
    ⟨timed.ordered.mono later, timed.shown⟩
  cases turn with
  | rest => exact kept (timed after rfl)
  | window => exact ⟨List.pairwise_singleton _ _, fun visible => by cases visible⟩
  | popup => exact ⟨List.pairwise_singleton _ _, fun visible => by cases visible⟩
  | declareMin size done | declareMax size done =>
    rw [Surface.changeToplevel_ok done]
    have timed := timed _ rfl
    exact kept ⟨timed.ordered, timed.shown⟩
  | ack raw done =>
    have timed := timed _ rfl
    have ordered := timed.ordered.ack done
    obtain ⟨_, _, -, rfl⟩ := Surface.ack_ok done
    exact kept ⟨ordered, timed.shown⟩
  | commit commit done =>
    have timed := timed _ rfl
    exact kept ⟨timed.ordered.commit done, timed.shown.commit done⟩
  | invite commit done due counted =>
    have timed := timed _ rfl
    have shown := timed.shown.commit done
    have ordered := (timed.ordered.commit done).schedule due below
    rw [← counted] at ordered
    obtain ⟨-, -, rfl, -⟩ := Surface.schedule_some due
    exact ⟨ordered, shown⟩
  | agree =>
    have timed := timed _ rfl
    exact kept ⟨timed.ordered, timed.shown⟩
  | @propose _ surface _ change _ _ _ due counted =>
    have timed := timed _ rfl
    have ordered : (surface.setPending change).InOrder _ := timed.ordered
    have ordered := ordered.schedule due below
    rw [← counted] at ordered
    obtain ⟨-, -, rfl, -⟩ := Surface.schedule_some due
    exact ⟨ordered, timed.shown⟩

/-- What a view waits for stays on its way. -/
theorem Turn.answers {surface after : Surface} {awaited : Serial}
    (turn : Turn shell id act (some surface) (some after) sent)
    (timed : surface.Timed shell.serials.next.number)
    (early : awaited.number < shell.serials.next.number) (answers : surface.Answers awaited) :
    after.Answers awaited := by
  cases turn with
  | rest => exact answers
  | declareMin size done | declareMax size done =>
    rw [Surface.changeToplevel_ok done]
    exact answers
  | ack raw done => exact answers.ack timed.ordered done
  | commit commit done => exact answers.commit timed.ordered done
  | invite commit done due => exact .schedule (Nat.le_of_lt early) due
  | agree => exact answers
  | propose _ due => exact .schedule (Nat.le_of_lt early) due

end Acts

/-! ### What views wait for -/

section Views

variable {shell : Shell} {id : ViewId} {new : View}

/-- A view was there before, for the same surface. -/
def Descends (shell : Shell) (id : ViewId) (new : View) : Prop :=
  ∃ old, shell.views.get? id = some old ∧ old.surface = new.surface

theorem Steady.descends {after : Shell} (steady : Steady id new.surface shell after)
    (kept : after.views.get? id = some new) : shell.Descends id new := by
  obtain ⟨old, there, same, -⟩ := steady.view new kept rfl
  exact ⟨old, there, same⟩

theorem descends_of_frame {after : Shell} (same : after.frame = shell.frame)
    (kept : after.views.get? id = some new) : shell.Descends id new := by
  obtain ⟨old, there, core⟩ := view_of_frame same kept
  exact ⟨old, there, View.surface_of_core core⟩

/-- A view was there before an act, for the same surface, or it waits for nothing yet. -/
theorem perform_descends (roled : shell.Roled) (act : Act)
    (kept : (shell.perform act).shell.views.get? id = some new) :
    shell.Descends id new ∨ new.negotiation.awaited = none := by
  cases act with
  | call view call =>
    by_cases destroys : call = .destroy
    · subst destroys
      exact .inl ((Steady.forgetView view).descends kept)
    · exact .inl (descends_of_frame (call_frame view destroys) kept)
  | request request =>
    have still : Steady id new.surface shell (shell.handle request).shell →
        shell.Descends id new ∨ new.negotiation.awaited = none := fun steady =>
      .inl (steady.descends kept)
    cases request with
    | newToplevel surface =>
      rcases newToplevel_cases roled surface with ⟨fault, refused⟩ | ⟨-, taken⟩
      · rw [perform, handle, refused] at kept
        exact .inl ⟨new, kept, rfl⟩
      · rw [perform, handle, taken] at kept
        rcases createView_view _ kept with there | ⟨listeners, rfl⟩
        · rw [ping_views] at there
          exact .inl ⟨new, there, rfl⟩
        · exact .inr rfl
    | newPopup surface parent geometry => exact still (newPopup_steady roled surface parent geometry)
    | setMinSize | setMaxSize | ack => exact still (changeSurface_steady _ _)
    | commit surface commit => exact .inl (descends_of_frame (commit_frame surface commit) kept)
    | move | resize | maximize | fullscreen => exact still (forward_steady _ (by simp))
    | destroy root => exact still (destroy_steady root)

/-- **What a view waits for** after an act it waited for before, or the act sent it. -/
theorem awaited_cases (sound : shell.Sound) (roled : shell.Roled) (act : Act)
    (kept : (shell.perform act).shell.views.get? id = some new) {awaited : Serial}
    (waits : new.negotiation.awaited = some awaited) :
    (∃ old, shell.views.get? id = some old ∧ old.surface = new.surface ∧
      old.negotiation.awaited = some awaited) ∨ shell.Sends act new.surface (some awaited) := by
  rcases perform_descends roled act kept with ⟨old, live, same⟩ | idle
  · obtain ⟨released, shift, -⟩ := perform_shift sound roled act live kept same.symm
    by_cases unchanged : new.negotiation.awaited = old.negotiation.awaited
    · exact .inl ⟨old, live, same, unchanged ▸ waits⟩
    · rcases shift.awaited_changes unchanged with ⟨serial, parks⟩ | meets
      · obtain rfl := Option.some.inj (waits.symm.trans (shift.awaited_of_parks parks))
        obtain ⟨-, -, sends⟩ := parks
        exact .inr (same ▸ sends)
      · rw [shift.awaited_of_meets meets] at waits
        cases waits
  · rw [idle] at waits
    cases waits

end Views

/-- **The timeline after so many acts.** -/
structure Timely (count : Nat) (shell : Shell) : Prop where
  /-- Every act takes at most one serial. -/
  counted : shell.serials.next.number ≤ count + 1
  /-- Every surface is in time. -/
  surfaces : ∀ id surface, shell.surfaces.get? id = some surface →
    surface.Timed shell.serials.next.number
  /-- What a view waits for was handed out, and its surface answers it. -/
  views : ∀ id view surface awaited, shell.views.get? id = some view →
    shell.surfaces.get? view.surface = some surface → view.negotiation.awaited = some awaited →
      awaited.number < shell.serials.next.number ∧ surface.Answers awaited

theorem timely_fresh (count : Nat) (settings : Settings) (seats : Table SeatId SeatMode)
    (refusals : Nat) : Timely count (fresh settings seats refusals) where
  counted := Nat.le_add_left 1 count
  surfaces _ _ found := by cases found
  views _ _ _ _ found := by cases found

/-- A configure that an act sends takes the next serial, and is in flight last. -/
theorem Sends.newest {shell : Shell} {act : Act} {id : SurfaceId} {serial : Serial}
    {surface : Surface} (sends : shell.Sends act id (some serial)) (roled : shell.Roled)
    (present : (shell.perform act).shell.surfaces.get? id = some surface) :
    serial = shell.serials.next ∧
      (shell.perform act).shell.serials = shell.serials.allocate.2 ∧
      ∃ older configure, surface.inflight = older ++ [configure] ∧ configure.serial = serial := by
  obtain ⟨payload, outbox⟩ := sends
  obtain ⟨sent, grows, turn⟩ := perform_turn roled act id
  have told := sentTo_of_outbox id outbox
  rw [grows, List.append_cancel_left_eq] at told
  have handed : ∀ {configure : Configure} {surface after : Surface} {next : SerialCounter}
      {force : Bool}, surface.schedule shell.serials force = some (configure, after, next) →
      (shell.perform act).shell.serials = next → configure.serial = serial →
      serial = shell.serials.next ∧
        (shell.perform act).shell.serials = shell.serials.allocate.2 ∧
        ∃ older configure, after.inflight = older ++ [configure] ∧ configure.serial = serial := by
    rintro configure surface after next force due counted rfl
    obtain ⟨-, first, rfl, advanced⟩ := Surface.schedule_some due
    exact ⟨first, counted.trans advanced, surface.inflight, configure, rfl, rfl⟩
  rw [present] at turn
  simp only [List.filterMap_cons, Message.configureFor?, if_pos, List.filterMap_nil] at told
  generalize shell.surfaces.get? id = before at turn
  cases turn with
  | invite commit done due counted =>
    exact handed due counted (congrArg Configure.serial (List.singleton_inj.mp told))
  | propose asked due counted =>
    exact handed due counted (congrArg Configure.serial (List.singleton_inj.mp told))
  | _ => cases told

/-- The surface that an act sends a configure answers it. -/
theorem Sends.answers {shell : Shell} {act : Act} {id : SurfaceId} {serial : Serial}
    {surface : Surface} (sends : shell.Sends act id (some serial)) (roled : shell.Roled)
    (present : (shell.perform act).shell.surfaces.get? id = some surface)
    (below : shell.serials.next.number + 1 < 2 ^ 32) :
    serial.number < (shell.perform act).shell.serials.next.number ∧ surface.Answers serial := by
  obtain ⟨rfl, counted, older, configure, inflight, named⟩ := sends.newest roled present
  rw [counted, SerialCounter.allocate, Serial.number_next below]
  exact ⟨Nat.lt_succ_self _, .inl ⟨configure.serial.number, by simp [Surface.numbers, inflight],
    Nat.le_of_eq (congrArg Serial.number named.symm)⟩⟩

theorem Timely.perform {count : Nat} {shell : Shell} (timely : Timely count shell)
    (sound : shell.Sound) (roled : shell.Roled) (short : count + 1 < 2 ^ 32 - 1) (act : Act) :
    Timely (count + 1) (shell.perform act).shell := by
  have below : shell.serials.next.number + 1 < 2 ^ 32 := by
    have counted := timely.counted
    omega
  have later := (perform_posts roled act).number below
  refine ⟨Nat.le_trans later.2 (Nat.succ_le_succ timely.counted), fun id after present => ?_, ?_⟩
  · obtain ⟨sent, -, turn⟩ := perform_turn roled act id
    rw [present] at turn
    exact turn.timed roled (fun surface found => timely.surfaces id surface found) below
  · intro id new after awaited kept present waits
    rcases awaited_cases sound roled act kept waits with ⟨old, live, same, waited⟩ | sends
    · obtain ⟨surface, found, -⟩ := sound.view_fits live
      obtain ⟨early, answers⟩ := timely.views id old surface awaited live found waited
      obtain ⟨sent, -, turn⟩ := perform_turn roled act old.surface
      rw [found, same, present] at turn
      exact ⟨Nat.lt_of_lt_of_le early later.1,
        turn.answers (timely.surfaces old.surface surface found) early answers⟩
    · exact sends.answers roled present below

/-- **In fewer acts than there are serials, every shell keeps its timeline.** -/
theorem Reached.timely {count : Nat} {shell : Shell} (reached : Reached count shell)
    (short : count < 2 ^ 32 - 1) : Timely count shell := by
  induction reached with
  | fresh count settings seats refusals => exact timely_fresh count settings seats refusals
  | act act reached ih => exact (ih (by omega)).perform reached.sound reached.roled short act

end Shell

end WindowShell
