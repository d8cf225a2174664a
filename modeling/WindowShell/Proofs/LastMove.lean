/-
**The last move wins.**

Window management may move and resize a window many times while its client is slow. Once the client
has acknowledged the newest configure and committed, the window is where the last of these calls puts
it, whatever was parked or awaited before. Either that call applied at once, or it is awaited by a
serial which the commit has caught up with, and the commit releases it:

* `Coordinate.Settles`: where one coordinate ends;
* `Negotiation.settles`: a request and the commit that catches up with it;
* `last_move_wins`: any number of calls, the acknowledgement and the commit.
-/

import WindowShell.Proofs.Timeline

namespace WindowShell

namespace Coordinate

/-- A number is a coordinate. -/
def Fits (value : Int) : Prop := -2147483648 ≤ value ∧ value ≤ 2147483647

/-- **Where one coordinate of a view ends** when it is asked for with a length, of which the bounds
allow another, and the client commits a length of its own. -/
structure Settles (atOnce : Prop) (start wished : Int32) (requested allowed : UInt32)
    (committed final : Int32) : Prop where
  /-- A coordinate that is not dragged rests. -/
  rests : wished = start → final = start
  /-- A move that applies at once takes off what the bounds add. -/
  planned : wished ≠ start → atOnce →
    final = Int32.ofIntClamp (wished.toInt + requested.toNat - allowed.toNat)
  /-- A parked move takes off what the client adds as well. -/
  released : wished ≠ start → ¬ atOnce →
    final = Int32.ofIntClamp
      ((Int32.ofIntClamp (wished.toInt + requested.toNat - allowed.toNat)).toInt +
        allowed.toNat - max committed.toInt 0)
  /-- While all of it fits, a parked move keeps the far edge. -/
  farEdge : wished ≠ start → ¬ atOnce → Fits (wished.toInt + requested.toNat - allowed.toNat) →
    Fits (wished.toInt + requested.toNat - max committed.toInt 0) →
      final.toInt + max committed.toInt 0 = wished.toInt + requested.toNat

theorem toNat_toNatClampNeg (length : Int32) : (length.toNatClampNeg : Int) = max length.toInt 0 :=
  Int.ofNat_toNat length.toInt

theorem settles_planned (start wished : Int32) (requested allowed : UInt32) (committed : Int32)
    {atOnce : Prop} (now : atOnce) :
    Settles atOnce start wished requested allowed committed
      (if wished ≠ start then shift wished requested.toNat allowed.toNat else wished) where
  rests same := by rw [if_neg (not_not_intro same), same]
  planned differ _ := by rw [if_pos differ, shift]
  released _ later := absurd now later
  farEdge _ later := absurd now later

theorem settles_released (start wished : Int32) (requested allowed : UInt32) (committed : Int32)
    {atOnce : Prop} (later : ¬ atOnce) :
    Settles atOnce start wished requested allowed committed
      (if wished ≠ start then
        shift (shift wished requested.toNat allowed.toNat) allowed.toNat committed.toNatClampNeg
      else start) where
  rests same := by rw [if_neg (not_not_intro same)]
  planned _ now := absurd now later
  released differ _ := by rw [if_pos differ, shift, shift, toNat_toNatClampNeg]
  farEdge differ _ plans ends := by
    have length := toNat_toNatClampNeg committed
    have planned := shift_toInt wished requested.toNat allowed.toNat plans.1 plans.2
    unfold Fits at ends
    rw [if_pos differ, shift_toInt] <;> omega

end Coordinate

/-- A place settles with both of its coordinates. -/
def Point.Settles (atOnce : Prop) (start wished : Point) (requested allowed : Extent)
    (committed : Size) (final : Point) : Prop :=
  Coordinate.Settles atOnce start.x wished.x requested.width allowed.width committed.width final.x ∧
    Coordinate.Settles atOnce start.y wished.y requested.height allowed.height committed.height
      final.y

namespace Target

variable (start wished : Point) (requested allowed : Extent) (committed : Size) {atOnce : Prop}

/-- The planned position is where a move that applies at once ends. -/
theorem plan_settles (now : atOnce) :
    Point.Settles atOnce start wished requested allowed committed
      (plan start wished requested allowed).position :=
  ⟨Coordinate.settles_planned _ _ _ _ _ now, Coordinate.settles_planned _ _ _ _ _ now⟩

/-- The released position is where a parked move ends. -/
theorem positionFor_settles (later : ¬ atOnce) :
    Point.Settles atOnce start wished requested allowed committed
      ((plan start wished requested allowed).positionFor start committed) := by
  have horizontal := Coordinate.settles_released start.x wished.x requested.width allowed.width
    committed.width later
  have vertical := Coordinate.settles_released start.y wished.y requested.height allowed.height
    committed.height later
  refine ⟨?_, ?_⟩
  · convert horizontal using 1
    by_cases dragged : wished.x ≠ start.x <;> simp [positionFor, plan, dragged]
  · convert vertical using 1
    by_cases dragged : wished.y ≠ start.y <;> simp [positionFor, plan, dragged]

end Target

namespace Negotiation

/-- A request, and then a commit that has caught up with whatever is awaited: the target applies at
once if there was nothing to wait for, and with the commit if there was. -/
theorem settles (negotiation : Negotiation) (target : Target) (serial caught : Option Serial)
    (start : Point) (committed : Size)
    (catches : ∀ awaited, (negotiation.request target serial).1.awaited = some awaited →
      ∃ later, caught = some later ∧ awaited ≤ later) :
    let requested := negotiation.request target serial
    let current := requested.2.getD start
    (requested.1.reconcile caught current committed).2.getD current =
      if serial = none ∧ negotiation.awaited = none then target.position
      else target.positionFor start committed := by
  intro requested current
  by_cases idle : serial = none ∧ negotiation.awaited = none
  · have now : requested.2 = some target.position :=
      (request_released _ _ _ _).mpr ⟨idle.1, idle.2, rfl⟩
    have quiet : requested.1.awaited = none := by
      rw [request_awaited, idle.1, idle.2, Option.or_none]
    have rests : (requested.1.reconcile caught current committed).2 = none := by
      refine Option.eq_none_iff_forall_ne_some.mpr fun point releases => ?_
      obtain ⟨_, _, waits, -⟩ := (reconcile_released _ _ _ _ _).mp releases
      rw [quiet] at waits
      cases waits
    rw [rests, Option.getD_none, if_pos idle]
    exact congrArg (Option.getD · start) now
  · have parked : requested.2 = none := by
      refine Option.eq_none_iff_forall_ne_some.mpr fun point releases => ?_
      obtain ⟨none, quiet, -⟩ := (request_released _ _ _ _).mp releases
      exact idle ⟨none, quiet⟩
    have here : current = start := congrArg (Option.getD · start) parked
    obtain ⟨awaited, waits⟩ : ∃ awaited, requested.1.awaited = some awaited := by
      rw [← Option.ne_none_iff_exists', request_awaited, ne_eq, Option.or_eq_none_iff]
      exact idle
    obtain ⟨later, reaches, order⟩ := catches awaited waits
    have releases := (reconcile_released requested.1 caught current committed _).mpr
      ⟨awaited, later, waits, reaches, order, rfl⟩
    rw [releases, Option.getD_some, request_target, here, if_neg idle]

end Negotiation

namespace Surface

/-! ### A client that catches up -/

/-- The newest configure in flight can be acknowledged, and then nothing is in flight any more. -/
theorem ack_newest {surface : Surface} {next : Nat} {serial : Serial}
    (ordered : surface.InOrder next) (newest : surface.newestSerial? = some serial) :
    ∃ configure,
      surface.ack serial.val = .ok { surface with inflight := [], acked := some configure } := by
  obtain ⟨configure, last, rfl⟩ := Option.map_eq_some_iff.mp newest
  obtain ⟨older, split⟩ := List.getLast?_eq_some_iff.mp last
  obtain ⟨ascend, -, -⟩ := List.pairwise_append.mp ordered
  simp only [numbers, split, List.map_append] at ascend
  have latest := (List.pairwise_append.mp ascend).2.1
  obtain ⟨-, -, before⟩ := List.pairwise_append.mp latest
  have passed : ∀ sent ∈ older, decide (sent.serial.val ≠ configure.serial.val) := by
    intro sent member
    refine decide_eq_true fun same => ?_
    have less := before sent.serial.number
      (List.mem_map_of_mem (List.mem_map_of_mem member)) configure.serial.number (by simp)
    rw [Serial.number, Serial.number, same] at less
    exact absurd less (Nat.lt_irrefl _)
  refine ⟨configure, ?_⟩
  rw [ack_eq, split, List.dropWhile_append_of_pos passed]
  simp

/-- On a configured surface no buffer is attached too early. -/
theorem attachesTooEarly_of_configured {surface : Surface} (configured : surface.configured)
    (commit : Commit) : surface.attachesTooEarly commit = false := by
  unfold attachesTooEarly
  split
  · rw [configured]; rfl
  · rfl

/-- A visible surface takes any commit that leaves it a buffer, and stays visible. -/
theorem commit_visible {surface : Surface} {commit : Commit} (roled : surface.role ≠ .unset)
    (shown : surface.Shown) (mapped : surface.mapped) (keeps : commit.buffer ≠ .remove) :
    surface.commit commit = .ok (surface.latchAck.latchContent commit, .settled) := by
  obtain ⟨configured, buffer⟩ := shown mapped
  have holds : (surface.latchAck.latchContent commit).buffer.isSome := by
    rw [latchContent, latchAck_buffer]
    cases change : commit.buffer with
    | keep => exact buffer
    | attach size => rfl
    | remove => exact absurd change keeps
  rw [commit_eq, if_neg roled, attachesTooEarly_of_configured configured, settle]
  simp [mapped, holds, Option.isNone_eq_false_iff.mpr holds]

/-- What was awaited is caught up with once nothing is in flight or acknowledged. -/
theorem Answers.caught {surface : Surface} {awaited : Serial} (answers : surface.Answers awaited)
    (configured : surface.configured) (idle : surface.inflight = [])
    (unacked : surface.acked = none) :
    ∃ caught, surface.configureSerial = some caught ∧ awaited ≤ caught := by
  rcases answers with ⟨number, member, enough⟩ | ⟨unconfigured, -, -⟩
  · rw [numbers, idle, unacked] at member
    cases caught : surface.configureSerial with
    | none => simp [caught] at member
    | some serial =>
      simp only [caught, Option.toList_some, Option.map_none, Option.toList_none, List.append_nil,
        List.map_nil, List.map_cons, List.mem_singleton] at member
      exact ⟨serial, rfl, Serial.le_iff.mpr (member ▸ enough)⟩
  · rw [configured] at unconfigured
    cases unconfigured

end Surface

namespace Shell

/-- The shell after calls that move and resize a view. -/
def moved (shell : Shell) (id : ViewId) (wishes : List (Point × Extent)) : Shell :=
  shell.performAll (wishes.map fun wish => .call id (.moveResize wish.1 wish.2))

/-- The client acknowledges the newest configure in flight, if there is one. -/
def catchUp (shell : Shell) (id : SurfaceId) : Reply :=
  ((shell.act? (.ack id none)).map shell.perform).getD shell.accept

/-- The client catches up with the newest configure, and commits. -/
def answer (shell : Shell) (id : SurfaceId) (commit : Commit) : Reply :=
  (shell.catchUp id).shell.perform (.request (.commit id commit))

/-- A view wraps a surface that is visible. -/
def Visible (shell : Shell) (id : ViewId) (window : SurfaceId) : Prop :=
  ∃ view surface, shell.views.get? id = some view ∧ view.surface = window ∧
    shell.surfaces.get? window = some surface ∧ surface.mapped

section Moving

variable {shell : Shell} {id : ViewId} {window : SurfaceId}

/-- A call leaves a surface there and as visible as it was. -/
theorem Turn.visible {view : ViewId} {call : WindowCall} {surface : Surface} {after : Option Surface}
    {sent : List Configure} (turn : Turn shell window (.call view call) (some surface) after sent)
    (mapped : surface.mapped) : ∃ kept, after = some kept ∧ kept.mapped := by
  cases turn with
  | rest => exact ⟨surface, rfl, mapped⟩
  | agree => exact ⟨_, rfl, mapped⟩
  | propose asked due =>
    obtain ⟨-, -, rfl, -⟩ := Surface.schedule_some due
    exact ⟨_, rfl, mapped⟩

/-- A call that forgets no view leaves every view of a visible surface what it is. -/
theorem Visible.call (visible : shell.Visible id window) (roled : shell.Roled) (view : ViewId)
    (call : WindowCall) (keeps : call ≠ .destroy) :
    (shell.perform (.call view call)).shell.Visible id window := by
  obtain ⟨old, surface, live, rfl, present, mapped⟩ := visible
  obtain ⟨new, kept, core⟩ := view_of_frame (call_frame view keeps).symm live
  obtain ⟨sent, -, turn⟩ := perform_turn roled (.call view call) old.surface
  rw [present] at turn
  obtain ⟨after, found, still⟩ := turn.visible mapped
  exact ⟨new, after, kept, View.surface_of_core core, found, still⟩

theorem Visible.moved (visible : shell.Visible id window) (roled : shell.Roled)
    (wishes : List (Point × Extent)) : (shell.moved id wishes).Visible id window := by
  induction wishes generalizing shell with
  | nil => exact visible
  | cons wish wishes ih => exact ih (visible.call roled id _ (by simp)) (perform_roled roled _)

theorem catchUp_of_none {surface : Surface} (present : shell.surfaces.get? window = some surface)
    (newest : surface.newestSerial? = none) : shell.catchUp window = shell.accept := by
  simp only [catchUp, act?, present, Option.bind_some, newest, Option.map_none, Option.getD_none]

theorem catchUp_of_ack {surface after : Surface} {serial : Serial}
    (present : shell.surfaces.get? window = some surface)
    (newest : surface.newestSerial? = some serial) (done : surface.ack serial.val = .ok after) :
    shell.catchUp window = (shell.putSurface window after).accept := by
  simp only [catchUp, act?, present, Option.bind_some, newest, Option.map_some, Option.getD_some,
    perform, handle]
  exact changeSurface_of_ok (SurfaceM.ack_careful serial.val) present done

/-- A client that catches up leaves its surface with nothing in flight, and what was awaited is still
on its way. -/
theorem catchUp_cases {surface : Surface} {next : Nat}
    (present : shell.surfaces.get? window = some surface) (timed : surface.Timed next) :
    (shell.catchUp window).fault = none ∧ (shell.catchUp window).shell.views = shell.views ∧
      ∃ caught, (shell.catchUp window).shell.surfaces.get? window = some caught ∧
        caught.inflight = [] ∧ caught.mapped = surface.mapped ∧ caught.Timed next ∧
          ∀ awaited, surface.Answers awaited → caught.Answers awaited := by
  cases newest : surface.newestSerial? with
  | none =>
    have idle : surface.inflight = [] :=
      List.getLast?_eq_none_iff.mp (Option.map_eq_none_iff.mp newest)
    rw [catchUp_of_none present newest]
    exact ⟨rfl, rfl, surface, present, idle, rfl, timed, fun _ answers => answers⟩
  | some serial =>
    obtain ⟨configure, done⟩ := Surface.ack_newest timed.ordered newest
    have acked := catchUp_of_ack present newest done
    have stored : (shell.catchUp window).shell.surfaces.get? window =
        some { surface with inflight := [], acked := some configure } := by
      rw [acked, accept, putSurface, Table.get?_insert, if_pos rfl]
    refine ⟨by rw [acked]; rfl, by rw [acked]; rfl, _, stored, rfl, rfl, ?_, ?_⟩
    · exact ⟨timed.ordered.ack done, timed.shown⟩
    · exact fun _ answers => answers.ack timed.ordered done

theorem Reached.moved {count : Nat} (reached : Reached count shell) (id : ViewId)
    (wishes : List (Point × Extent)) : Reached (count + wishes.length) (shell.moved id wishes) := by
  have performed := reached.performAll (wishes.map fun wish => .call id (.moveResize wish.1 wish.2))
  rwa [List.length_map] at performed

theorem Reached.catchUp {count : Nat} (reached : Reached count shell) (window : SurfaceId) :
    Reached (count + 1) (shell.catchUp window).shell := by
  rw [Shell.catchUp]
  cases shell.act? (.ack window none) with
  | none => exact reached.mono (Nat.le_succ count)
  | some act => exact .act act reached

/-- A commit that only settles stores the surface. -/
theorem commit_settled {surface after : Surface} {commit : Commit}
    (present : shell.surfaces.get? window = some surface)
    (done : surface.commit commit = .ok (after, .settled)) (mapped : after.mapped) :
    shell.Shows (.request (.commit window commit)) window after := by
  have taken := commit_of_ok present done
  refine ⟨commit, rfl, ?_, ?_, mapped⟩
  · rw [perform, handle, taken, accept]
  · rw [perform, handle, taken, accept, emit_surfaces, followed, get?_putSurface]

/-- **A client that catches up releases what is awaited.** The acknowledgement and the commit succeed,
and they reconcile the negotiation of the view with a serial that nothing awaited is ahead of. -/
theorem answer_reconciles {count : Nat} {view : View} {surface : Surface} (commit : Commit)
    (reached : Reached count shell) (timely : Timely count shell)
    (live : shell.views.get? id = some view)
    (present : shell.surfaces.get? view.surface = some surface) (mapped : surface.mapped)
    (keeps : commit.buffer ≠ .remove) :
    (shell.catchUp view.surface).fault = none ∧ (shell.answer view.surface commit).fault = none ∧
      ∃ new shown, (shell.answer view.surface commit).shell.views.get? id = some new ∧
        (shell.answer view.surface commit).shell.surfaces.get? view.surface = some shown ∧
        new.position = (view.negotiation.reconcile shown.configureSerial view.position
          shown.contentSize).2.getD view.position ∧
        ∀ awaited, view.negotiation.awaited = some awaited →
          ∃ caught, shown.configureSerial = some caught ∧ awaited ≤ caught := by
  obtain ⟨acked, views, caught, there, idle, visible, timed, answers⟩ :=
    catchUp_cases present (timely.surfaces _ _ present)
  have onward := reached.catchUp view.surface
  have still : (shell.catchUp view.surface).shell.views.get? id = some view := by rw [views, live]
  have seen : caught.mapped := visible ▸ mapped
  have done := Surface.commit_visible (onward.roled _ _ there) timed.shown seen keeps
  have shows := commit_settled there done (by rw [Surface.latch_mapped]; exact seen)
  obtain ⟨new, kept, core⟩ := view_of_frame (commit_frame view.surface commit).symm still
  obtain ⟨released, shift, lands⟩ := perform_shift onward.sound onward.roled
    (.request (.commit view.surface commit)) still kept (View.surface_of_core core)
  have reconciled := shift.released_of_shows shows
  obtain ⟨-, -, taken, stored, -⟩ := shows
  refine ⟨acked, taken, new, _, kept, stored, ?_, fun awaited waits => ?_⟩
  · rw [lands.position, reconciled]
  · obtain ⟨-, early⟩ := timely.views id view surface awaited live present waits
    refine ((answers awaited early).commit timed.ordered done).caught ?_ ?_ ?_
    · exact Surface.latch_configured (timed.shown seen).1 commit
    · rw [Surface.latchContent_inflight, Surface.latchAck_inflight, idle]
    · rw [Surface.latchContent_acked, Surface.latchAck_acked]

/-- A call to move and resize settles where it asks for, once the client catches up. -/
theorem moveResize_settles {count : Nat} {old : View} {current : Surface} {toplevel : Toplevel}
    {called : Shell} (reached : Reached count shell) (short : count + 1 < 2 ^ 32 - 1)
    (there : shell.window? id = some (old, current, toplevel)) (mapped : current.mapped)
    (position : Point) (size : Extent) (commit : Commit) (keeps : commit.buffer ≠ .remove)
    (calls : (shell.perform (.call id (.moveResize position size))).shell = called) :
    (called.catchUp old.surface).fault = none ∧ (called.answer old.surface commit).fault = none ∧
      ∃ new shown, (called.answer old.surface commit).shell.views.get? id = some new ∧
        (called.answer old.surface commit).shell.surfaces.get? old.surface = some shown ∧
        Point.Settles
          (shell.Sends (.call id (.moveResize position size)) old.surface none ∧
            old.negotiation.awaited = none)
          old.position position size (toplevel.bounds.constrain size) shown.contentSize
          new.position := by
  obtain ⟨live, present, -⟩ := window?_eq_some.mp there
  have onward : Reached (count + 1) called := calls ▸ .act _ reached
  obtain ⟨asked, told, kept, same, found, seen⟩ := calls ▸ Visible.call
    ⟨old, current, live, rfl, present, mapped⟩ reached.roled id (.moveResize position size) (by simp)
  obtain ⟨released, shift, lands⟩ := perform_shift reached.sound reached.roled
    (.call id (.moveResize position size)) live (calls ▸ kept) same
  obtain ⟨serial, sends, requested, rfl⟩ := shift.of_window there
  have answered :=
    answer_reconciles commit onward (onward.timely short) kept (same ▸ found) seen keeps
  rw [same, requested, lands.position] at answered
  obtain ⟨acked, taken, new, shown, stays, stored, ends, catches⟩ := answered
  refine ⟨acked, taken, new, shown, stays, stored, ?_⟩
  rw [Negotiation.settles _ _ _ _ old.position _ catches] at ends
  have now : serial = none ↔ shell.Sends (.call id (.moveResize position size)) old.surface none :=
    ⟨fun silent => silent ▸ sends, fun silent => sends.unique silent⟩
  rw [ends, ← now]
  split
  · next idle => exact Target.plan_settles _ _ _ _ _ idle
  · next waits => exact Target.positionFor_settles _ _ _ _ _ waits

/-- **The last move wins.** Window management moves and resizes a view of a visible surface any number
of times, in fewer acts than there are serials. Then the client acknowledges the newest configure in
flight, if there is one, and commits without removing its buffer. Both requests succeed, and the view
settles for the last call: from where it was just before that call, with the size that the bounds
allowed there, and the size that is committed. The call applied at once exactly if it told the client
nothing and nothing was awaited. -/
theorem last_move_wins {count : Nat} {view : View} {surface : Surface}
    (reached : Reached count shell) (id : ViewId) (live : shell.views.get? id = some view)
    (present : shell.surfaces.get? view.surface = some surface) (mapped : surface.mapped)
    (earlier : List (Point × Extent)) (position : Point) (size : Extent) (commit : Commit)
    (keeps : commit.buffer ≠ .remove) (short : count + earlier.length + 1 < 2 ^ 32 - 1) :
    ∃ old current toplevel new shown,
      (shell.moved id earlier).window? id = some (old, current, toplevel) ∧
        old.surface = view.surface ∧
      ((shell.moved id (earlier ++ [(position, size)])).catchUp view.surface).fault = none ∧
      ((shell.moved id (earlier ++ [(position, size)])).answer view.surface commit).fault = none ∧
      ((shell.moved id (earlier ++ [(position, size)])).answer view.surface
        commit).shell.views.get? id = some new ∧
      ((shell.moved id (earlier ++ [(position, size)])).answer view.surface
        commit).shell.surfaces.get? view.surface = some shown ∧
      Point.Settles
        ((shell.moved id earlier).Sends (.call id (.moveResize position size)) view.surface none ∧
          old.negotiation.awaited = none)
        old.position position size (toplevel.bounds.constrain size) shown.contentSize
        new.position := by
  have calls : ((shell.moved id earlier).perform (.call id (.moveResize position size))).shell =
      shell.moved id (earlier ++ [(position, size)]) := by
    simp only [moved, List.map_append, performAll_append]
    rfl
  have onward := reached.moved id earlier
  obtain ⟨old, current, there, same, found, seen⟩ :=
    Visible.moved ⟨view, surface, live, rfl, present, mapped⟩ reached.roled earlier
  obtain ⟨also, stored, kind⟩ := onward.sound.view_fits there
  rw [same, found] at stored
  obtain rfl := Option.some.inj stored
  obtain ⟨toplevel, role⟩ := Surface.isToplevel_iff.mp kind
  have window := window?_eq_some.mpr ⟨there, same ▸ found, role⟩
  obtain ⟨acked, taken, new, shown, settled⟩ :=
    moveResize_settles onward short window seen position size commit keeps calls
  rw [same] at acked taken settled
  exact ⟨old, current, toplevel, new, shown, window, same, acked, taken, settled⟩

end Moving

/-- A window whose client has acknowledged a move and not committed it yet. -/
def lateClient : Shell := (fresh { pingOnCreate := false } .empty 0).performAll parkedMove

/-- Its client is asked for two more moves, and then takes twenty less than it was asked for. The last
call ends at eighty, and there the far edge is. -/
theorem last_move_wins_parkedMove :
    ∃ new shown,
      ((lateClient.moved ⟨1⟩
        [({ x := 30, y := 0 }, { width := 70, height := 50 }),
          ({ x := 20, y := 0 }, { width := 60, height := 50 })]).answer ⟨1⟩
        { buffer := .attach { width := 40, height := 50 } }).shell.views.get? ⟨1⟩ = some new ∧
      ((lateClient.moved ⟨1⟩
        [({ x := 30, y := 0 }, { width := 70, height := 50 }),
          ({ x := 20, y := 0 }, { width := 60, height := 50 })]).answer ⟨1⟩
        { buffer := .attach { width := 40, height := 50 } }).shell.surfaces.get? ⟨1⟩ = some shown ∧
      new.position.x.toInt + max shown.contentSize.width.toInt 0 = 80 := by
  have reached : Reached 6 lateClient := (Reached.fresh 0 _ .empty 0).performAll parkedMove
  obtain ⟨old, _, toplevel, new, shown, there, -, -, -, kept, stored, settles, -⟩ :=
    last_move_wins reached ⟨1⟩ rfl rfl rfl [({ x := 30, y := 0 }, { width := 70, height := 50 })]
      { x := 20, y := 0 } { width := 60, height := 50 }
      { buffer := .attach { width := 40, height := 50 } } (by decide) (by decide)
  have before : ((lateClient.moved ⟨1⟩
      [({ x := 30, y := 0 }, { width := 70, height := 50 })]).window? ⟨1⟩).map (fun found =>
        (found.1.position, found.1.negotiation.awaited.isSome, found.2.2.bounds)) =
      some ({}, true, {}) := by decide
  rw [there, Option.map_some, Option.some.injEq, Prod.mk.injEq, Prod.mk.injEq] at before
  obtain ⟨position, awaited, bounds⟩ := before
  have size : (((lateClient.moved ⟨1⟩
      [({ x := 30, y := 0 }, { width := 70, height := 50 }),
        ({ x := 20, y := 0 }, { width := 60, height := 50 })]).answer ⟨1⟩
      { buffer := .attach { width := 40, height := 50 } }).shell.surfaces.get? ⟨1⟩).map
        Surface.contentSize = some { width := 40, height := 50 } := by decide
  refine ⟨new, shown, kept, stored, settles.farEdge ?_ ?_ ?_ ?_⟩
  · rw [position]
    decide
  · rintro ⟨-, idle⟩
    rw [idle] at awaited
    cases awaited
  · rw [bounds]
    exact ⟨by decide, by decide⟩
  · have same := size.symm.trans (congrArg (Option.map Surface.contentSize) stored)
    rw [← Option.some.inj same]
    exact ⟨by decide, by decide⟩

end Shell

end WindowShell
