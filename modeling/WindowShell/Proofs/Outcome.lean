/-
**The state a window ends up in.**

Window management asks a window for a state, and a configure is sent if that state differs from the
newest configure in flight, or else from the committed state. A configure that the client has
acknowledged and not yet committed is looked at by neither comparison. So a call may ask, between an
acknowledgement and its commit, for the state that is still committed: nothing is sent, and the commit
then puts another state in place.

* `asked_snoc`, `lastOverlooked_snoc`: what one more act adds to what was asked and overlooked;
* `Steered.perform`: the state the client is heading for is the one that was asked for, unless the
  last call on the window was overlooked;
* `committed_state_eq_asked_iff`: so once a window has come to rest, its committed state is the one
  that was asked for exactly if its last call was not overlooked;
* `restored_focus_is_lost`: a window that lost the focus on record, and keeps it.
-/

import Mathlib.Data.List.Induction
import WindowShell.Proofs.Turn

namespace WindowShell

namespace Surface

/-- What the client will have committed once it has caught up: the newest configure in flight, or else
the acknowledged one, or else what it committed since it was last unmapped. -/
def heading? (surface : Surface) : Option Payload :=
  ((surface.inflight.getLast?.or surface.acked).map Configure.payload).or
    (if surface.configured then surface.role.toplevel?.map fun toplevel => .toplevel toplevel.current
      else none)

/-- The configures that a window still has to commit are configures for windows. -/
def Fitting (surface : Surface) : Prop :=
  surface.isToplevel → ∀ configure, configure ∈ surface.inflight ∨ surface.acked = some configure →
    ∃ state, configure.payload = .toplevel state

theorem heading?_of_inflight {surface : Surface} {configure : Configure}
    (newest : surface.inflight.getLast? = some configure) :
    surface.heading? = some configure.payload := by
  simp [heading?, newest]

theorem heading?_of_acked {surface : Surface} {configure : Configure}
    (none : surface.inflight = []) (acked : surface.acked = some configure) :
    surface.heading? = some configure.payload := by
  simp [heading?, none, acked]

theorem heading?_of_settled {surface : Surface} {toplevel : Toplevel}
    (window : surface.role = .toplevel toplevel) (none : surface.inflight = [])
    (settled : surface.acked = .none) :
    surface.heading? = if surface.configured then some (.toplevel toplevel.current) else .none := by
  simp [heading?, none, settled, window, Role.toplevel?]

/-- An acknowledgement does not change where the client is heading. -/
theorem heading?_ack {surface after : Surface} {raw : UInt32} (done : surface.ack raw = .ok after) :
    after.heading? = surface.heading? := by
  obtain ⟨acked, rest, found, rfl⟩ := ack_ok done
  have split : surface.inflight = (surface.inflight.takeWhile fun configure =>
      configure.serial.val ≠ raw) ++ acked :: rest := by
    rw [← found, List.takeWhile_append_dropWhile]
  have newest : surface.inflight.getLast? = (acked :: rest).getLast? := by
    rw [split, List.getLast?_append, List.getLast?_eq_some_getLast (List.cons_ne_nil acked rest),
      Option.some_or]
  cases rest with
  | nil => simp [heading?, newest]
  | cons next rest =>
    have same := List.getLast?_eq_some_getLast (List.cons_ne_nil next rest)
    rw [List.getLast?_cons_cons, same] at newest
    rw [heading?_of_inflight newest, heading?_of_inflight same]

/-- Taking over the acknowledged state does not change where the client is heading. -/
theorem heading?_latch {surface : Surface} {toplevel : Toplevel} (fitting : surface.Fitting)
    (window : surface.role = .toplevel toplevel) (commit : Commit) :
    (surface.latchAck.latchContent commit).heading? = surface.heading? := by
  cases newest : surface.inflight.getLast? with
  | some configure =>
    have latched : (surface.latchAck.latchContent commit).inflight.getLast? = some configure := by
      simpa
    rw [heading?_of_inflight newest, heading?_of_inflight latched]
  | none =>
    have none := List.getLast?_eq_none_iff.mp newest
    cases acked : surface.acked with
    | none =>
      simp [heading?, none, acked, latchAck, latchContent, window, Role.mapToplevel,
        Role.toplevel?, Toplevel.latchBounds]
    | some configure =>
      obtain ⟨state, payload⟩ := fitting (by simp [isToplevel, window, Role.toplevel?]) configure
        (.inr acked)
      simp [heading?, none, acked, latchAck, latchContent, window, Role.mapToplevel, Role.adopt,
        Role.toplevel?, Toplevel.latchBounds, payload]

/-- Settling visibility changes where the client is heading only if it unmaps. -/
theorem heading?_settle {surface after : Surface} {effect : CommitEffect}
    (settled : surface.acked = none) (done : surface.settle = (after, effect)) :
    after.heading? = if effect = .unmapped then none else surface.heading? := by
  unfold settle at done
  split at done
  · cases done
    simp [heading?, settled]
  · split at done
    · cases done
      rfl
    · split at done <;> cases done <;> rfl

/-- A commit leaves the client heading where it was, and nowhere if it unmaps. -/
theorem heading?_commit {surface after : Surface} {toplevel : Toplevel} {commit : Commit}
    {effect : CommitEffect} (fitting : surface.Fitting) (window : surface.role = .toplevel toplevel)
    (done : surface.commit commit = .ok (after, effect)) :
    after.heading? = if effect = .unmapped then none else surface.heading? := by
  obtain ⟨-, -, settled⟩ := commit_ok done
  rw [heading?_settle (by simp) settled, heading?_latch fitting window]

/-! ### Configures that fit the window -/

/-- The state the compositor wants a window to have. -/
def wanted? (surface : Surface) : Option ToplevelState :=
  surface.role.toplevel?.map Toplevel.pending

theorem wanted?_isSome (surface : Surface) : surface.wanted?.isSome = surface.isToplevel := by
  simp [wanted?, isToplevel]

theorem isToplevel_of_wanted? {surface after : Surface} (same : after.wanted? = surface.wanted?) :
    after.isToplevel = surface.isToplevel := by
  rw [← wanted?_isSome, same, wanted?_isSome]

theorem wanted?_of_role {surface : Surface} {toplevel : Toplevel}
    (window : surface.role = .toplevel toplevel) : surface.wanted? = some toplevel.pending := by
  simp [wanted?, window, Role.toplevel?]

theorem wanted?_changeToplevel {surface after : Surface} {change : Toplevel → Toplevel}
    (done : surface.changeToplevel change = .ok after)
    (keeps : ∀ toplevel, (change toplevel).pending = toplevel.pending) :
    after.wanted? = surface.wanted? := by
  rw [changeToplevel_ok done]
  cases role : surface.role <;> simp [wanted?, role, Role.mapToplevel, Role.toplevel?, keeps]

theorem wanted?_setPending (surface : Surface) (change : ToplevelState → ToplevelState) :
    (surface.setPending change).wanted? = surface.wanted?.map change := by
  cases role : surface.role <;>
    simp [wanted?, setPending, role, Role.mapToplevel, Role.toplevel?]

theorem wanted?_latch (surface : Surface) (commit : Commit) :
    (surface.latchAck.latchContent commit).wanted? = surface.wanted? := by
  unfold wanted? latchContent latchAck
  cases acked : surface.acked with
  | none =>
    cases role : surface.role <;>
      simp [Role.mapToplevel, Role.toplevel?, Toplevel.latchBounds]
  | some configure =>
    cases role : surface.role <;> cases payload : configure.payload <;>
      simp [payload, Role.adopt, Role.mapToplevel, Role.toplevel?, Toplevel.latchBounds]

/-- A commit does not change what is wanted of a window. -/
theorem wanted?_commit {surface after : Surface} {commit : Commit} {effect : CommitEffect}
    (done : surface.commit commit = .ok (after, effect)) : after.wanted? = surface.wanted? := by
  obtain ⟨-, -, settled⟩ := commit_ok done
  have same := settle_role (surface.latchAck.latchContent commit)
  rw [settled] at same
  rw [← wanted?_latch surface commit, wanted?, same, wanted?]

theorem Fitting.of_subset {surface after : Surface} (fitting : surface.Fitting)
    (window : after.isToplevel = surface.isToplevel)
    (known : ∀ configure, configure ∈ after.inflight ∨ after.acked = some configure →
      configure ∈ surface.inflight ∨ surface.acked = some configure) : after.Fitting :=
  fun toplevel configure member => fitting (window ▸ toplevel) configure (known configure member)

/-- After a commit no acknowledgement waits, and what is in flight was in flight before. -/
theorem commit_waiting {surface after : Surface} {commit : Commit} {effect : CommitEffect}
    (done : surface.commit commit = .ok (after, effect)) :
    after.acked = none ∧ (after.inflight = surface.inflight ∨ after.inflight = []) := by
  obtain ⟨-, -, settled⟩ := commit_ok done
  unfold settle at settled
  split at settled
  · cases settled
    exact ⟨latchAck_acked surface, .inr rfl⟩
  · split at settled
    · cases settled
      exact ⟨latchAck_acked surface, .inl (latchAck_inflight surface)⟩
    · split at settled <;> cases settled <;>
        exact ⟨latchAck_acked surface, .inl (latchAck_inflight surface)⟩

theorem Fitting.ack {surface after : Surface} {raw : UInt32} (fitting : surface.Fitting)
    (done : surface.ack raw = .ok after) : after.Fitting := by
  obtain ⟨acked, rest, found, rfl⟩ := ack_ok done
  have inside : ∀ configure ∈ acked :: rest, configure ∈ surface.inflight := fun _ member =>
    (List.dropWhile_sublist _).subset (found ▸ member)
  refine fitting.of_subset rfl fun configure member => .inl ?_
  rcases member with later | same
  · exact inside _ (List.mem_cons_of_mem _ later)
  · obtain rfl := Option.some.inj same
    exact inside _ List.mem_cons_self

theorem Fitting.commit {surface after : Surface} {commit : Commit} {effect : CommitEffect}
    (fitting : surface.Fitting) (done : surface.commit commit = .ok (after, effect)) :
    after.Fitting := by
  refine fitting.of_subset (isToplevel_of_wanted? (wanted?_commit done)) ?_
  obtain ⟨none, same | empty⟩ := commit_waiting done
  · rintro configure (member | acked)
    · exact .inl (same ▸ member)
    · rw [none] at acked
      cases acked
  · rintro configure (member | acked)
    · rw [empty] at member
      cases member
    · rw [none] at acked
      cases acked

/-- A window is told the state that is wanted of it. -/
theorem payload_of_duePayload? {surface : Surface} {force : Bool} {payload : Payload}
    {state : ToplevelState} (due : surface.duePayload? force = some payload)
    (wanted : surface.wanted? = some state) : payload = .toplevel state := by
  unfold duePayload? at due
  split at due
  · cases due
  · next toplevel window =>
    rw [wanted?_of_role window, Option.some.injEq] at wanted
    subst wanted
    split at due
    · cases due
    · exact (Option.some.inj due).symm
  · next window =>
    rw [wanted?, window] at wanted
    cases wanted

theorem Fitting.schedule {surface after : Surface} {serials next : SerialCounter} {force : Bool}
    {configure : Configure} (fitting : surface.Fitting)
    (sent : surface.schedule serials force = some (configure, after, next)) : after.Fitting := by
  obtain ⟨due, -, rfl, -⟩ := schedule_some sent
  rintro toplevel other (member | acked)
  · rcases List.mem_append.mp member with old | new
    · exact fitting toplevel other (.inl old)
    · obtain rfl := List.mem_singleton.mp new
      obtain ⟨state, window⟩ := isToplevel_iff.mp toplevel
      exact ⟨state.pending, payload_of_duePayload? due (wanted?_of_role window)⟩
  · exact fitting toplevel other (.inr acked)

theorem Fitting.setPending {surface : Surface} (fitting : surface.Fitting)
    (change : ToplevelState → ToplevelState) : (surface.setPending change).Fitting := by
  refine fitting.of_subset ?_ fun _ member => member
  rw [← wanted?_isSome, wanted?_setPending, Option.isSome_map, wanted?_isSome]

/-! ### Calls that are overlooked -/

/-- A call asks for the state that is still committed, while the client has acknowledged another one
and nothing is in flight. -/
def Overlooks (surface : Surface) (change : ToplevelState → ToplevelState) : Prop :=
  ∃ toplevel acked, surface.role = .toplevel toplevel ∧ surface.inflight = [] ∧
    surface.acked = some acked ∧ change toplevel.pending = toplevel.current ∧
      acked.payload ≠ .toplevel toplevel.current

/-- What is asked of a window does not change where its client is heading by itself. -/
theorem heading?_setPending (surface : Surface) (change : ToplevelState → ToplevelState) :
    (surface.setPending change).heading? = surface.heading? := by
  cases role : surface.role <;>
    simp [heading?, setPending, role, Role.mapToplevel, Role.toplevel?]

/-- A call sends nothing if it asks for the newest state in flight, or else for the committed one. -/
theorem latest_of_agreed {surface : Surface} {toplevel : Toplevel} {serials : SerialCounter}
    {change : ToplevelState → ToplevelState} (role : surface.role = .toplevel toplevel)
    (agreed : (surface.setPending change).schedule serials false = none) :
    (surface.inflight.getLast?.bind fun configure => configure.payload.toplevel?).or
      (some toplevel.current) = some (change toplevel.pending) := by
  have quiet := schedule_eq_none_iff.mp agreed
  simpa [duePayload?, setPending, role, Role.mapToplevel, latestToplevelState?,
    Role.toplevel?] using quiet

/-- After a call that sends nothing the client heads for what was asked, unless that was overlooked. -/
theorem heading_of_agreed {surface : Surface} {toplevel : Toplevel} {serials : SerialCounter}
    {change : ToplevelState → ToplevelState} {payload : Payload} (fitting : surface.Fitting)
    (role : surface.role = .toplevel toplevel)
    (agreed : (surface.setPending change).schedule serials false = none)
    (heads : (surface.setPending change).heading? = some payload) :
    payload = .toplevel (change toplevel.pending) ↔ ¬ surface.Overlooks change := by
  have latest := latest_of_agreed role agreed
  rw [heading?_setPending] at heads
  cases newest : surface.inflight.getLast? with
  | some configure =>
    obtain ⟨state, proposed⟩ := fitting (isToplevel_iff.mpr ⟨toplevel, role⟩) configure
      (.inl (List.mem_of_getLast? newest))
    have same : state = change toplevel.pending := by
      simpa [newest, proposed, Payload.toplevel?] using latest
    rw [heading?_of_inflight newest, proposed, Option.some.injEq] at heads
    refine ⟨fun _ => ?_, fun _ => by rw [← heads, same]⟩
    rintro ⟨_, _, -, none, -⟩
    rw [none] at newest
    cases newest
  | none =>
    have none := List.getLast?_eq_none_iff.mp newest
    have same : toplevel.current = change toplevel.pending := by simpa [newest] using latest
    cases acked : surface.acked with
    | none =>
      have current : payload = .toplevel toplevel.current := by
        rw [heading?_of_settled role none acked] at heads
        split at heads
        · exact (Option.some.inj heads).symm
        · cases heads
      refine ⟨fun _ => ?_, fun _ => by rw [current, same]⟩
      rintro ⟨_, _, -, -, waits, -⟩
      rw [acked] at waits
      cases waits
    | some configure =>
      rw [heading?_of_acked none acked, Option.some.injEq] at heads
      rw [← heads, ← same]
      constructor
      · rintro reached ⟨state, waiting, window, -, waits, -, differs⟩
        obtain rfl := Role.toplevel.inj (role.symm.trans window)
        obtain rfl := Option.some.inj (acked.symm.trans waits)
        exact differs reached
      · intro seen
        by_contra differs
        exact seen ⟨toplevel, configure, role, none, acked, same.symm, differs⟩

/-- A call that is overlooked sends nothing. -/
theorem not_overlooks_of_proposed {surface after : Surface} {serials next : SerialCounter}
    {change : ToplevelState → ToplevelState} {configure : Configure}
    (sent : (surface.setPending change).schedule serials false = some (configure, after, next)) :
    ¬ surface.Overlooks change := by
  rintro ⟨toplevel, acked, role, none, -, same, -⟩
  obtain ⟨due, -⟩ := schedule_some sent
  simp [duePayload?, setPending, role, Role.mapToplevel, latestToplevelState?, Role.toplevel?, none,
    same] at due

/-! ### Windows on their way -/

/-- A window is wanted to be what was asked of it, and the client is heading there exactly if the
last call was not lost. -/
structure Steered (surface : Surface) (asked : ToplevelState) (lost : Prop) : Prop where
  /-- The configures fit the window. -/
  fitting : surface.Fitting
  /-- What is wanted is what was asked. -/
  wanted : ∀ state, surface.wanted? = some state → state = asked
  /-- Only a lost call lets the client head for something else. -/
  heading : surface.isToplevel → ∀ payload, surface.heading? = some payload →
    (payload = .toplevel asked ↔ ¬ lost)

namespace Steered

variable {surface after : Surface} {asked : ToplevelState} {lost : Prop}

/-- A surface that nothing was sent to yet. -/
theorem new (role : Role) (wanted : ∀ state, ({ role } : Surface).wanted? = some state → state = asked) :
    ({ role } : Surface).Steered asked lost where
  fitting := by simp [Fitting]
  wanted := wanted
  heading := by simp [heading?]

/-- A client that heads where it did before is as lost as before. -/
theorem quiet (steered : surface.Steered asked lost) (fitting : after.Fitting)
    (wanted : after.wanted? = surface.wanted?)
    (heading : surface.isToplevel → ∀ payload, after.heading? = some payload →
      surface.heading? = some payload) : after.Steered asked lost where
  fitting := fitting
  wanted := wanted ▸ steered.wanted
  heading toplevel payload heads := by
    rw [isToplevel_of_wanted? wanted] at toplevel
    exact steered.heading toplevel payload (heading toplevel payload heads)

theorem declare {change : Toplevel → Toplevel} (steered : surface.Steered asked lost)
    (done : surface.changeToplevel change = .ok after)
    (keeps : ∀ toplevel, (change toplevel).pending = toplevel.pending ∧
      (change toplevel).current = toplevel.current) : after.Steered asked lost := by
  have wanted := wanted?_changeToplevel done fun toplevel => (keeps toplevel).1
  have same := changeToplevel_ok done
  refine steered.quiet (steered.fitting.of_subset (isToplevel_of_wanted? wanted) ?_) wanted ?_
  · simp [same]
  · intro toplevel payload heads
    obtain ⟨state, window⟩ := isToplevel_iff.mp toplevel
    simpa [same, heading?, window, Role.mapToplevel, Role.toplevel?, (keeps state).2] using heads

theorem ack {raw : UInt32} (steered : surface.Steered asked lost)
    (done : surface.ack raw = .ok after) : after.Steered asked lost := by
  have heading := heading?_ack done
  refine steered.quiet (steered.fitting.ack done) ?_ fun _ _ heads => heading ▸ heads
  obtain ⟨_, _, -, rfl⟩ := ack_ok done
  rfl

theorem commit {commit : Commit} {effect : CommitEffect} (steered : surface.Steered asked lost)
    (done : surface.commit commit = .ok (after, effect)) : after.Steered asked lost := by
  refine steered.quiet (steered.fitting.commit done) (wanted?_commit done) fun toplevel _ heads => ?_
  obtain ⟨state, window⟩ := isToplevel_iff.mp toplevel
  rw [heading?_commit steered.fitting window done] at heads
  split at heads
  · cases heads
  · exact heads

/-- A configure puts the client on its way to what is wanted. -/
theorem told {serials next : SerialCounter} {force : Bool} {configure : Configure}
    (fitting : surface.Fitting) (wanted : ∀ state, surface.wanted? = some state → state = asked)
    (sent : surface.schedule serials force = some (configure, after, next)) (found : ¬ lost) :
    after.Steered asked lost := by
  have fits := fitting.schedule sent
  obtain ⟨due, -, same, -⟩ := schedule_some sent
  have kept : after.wanted? = surface.wanted? := by rw [same]; rfl
  refine ⟨fits, kept ▸ wanted, fun toplevel payload heads => ?_⟩
  have heading : after.heading? = some configure.payload :=
    heading?_of_inflight (by simp [same])
  rw [heading, Option.some.injEq] at heads
  rw [← wanted?_isSome, kept] at toplevel
  obtain ⟨state, wants⟩ := Option.isSome_iff_exists.mp toplevel
  have proposed := payload_of_duePayload? due wants
  rw [wanted state wants] at proposed
  exact ⟨fun _ => found, fun _ => heads ▸ proposed⟩

theorem wanted_setPending (steered : surface.Steered asked lost)
    (change : ToplevelState → ToplevelState) :
    ∀ state, (surface.setPending change).wanted? = some state → state = change asked := by
  intro state wants
  rw [wanted?_setPending, Option.map_eq_some_iff] at wants
  obtain ⟨earlier, wants, rfl⟩ := wants
  rw [steered.wanted earlier wants]

/-- A call that sends nothing is lost exactly if it is overlooked. -/
theorem agree {serials : SerialCounter} {change : ToplevelState → ToplevelState}
    (steered : surface.Steered asked lost)
    (agreed : (surface.setPending change).schedule serials false = none) :
    (surface.setPending change).Steered (change asked) (surface.Overlooks change) := by
  refine ⟨steered.fitting.setPending change, steered.wanted_setPending change,
    fun window payload heads => ?_⟩
  rw [← wanted?_isSome, wanted?_setPending, Option.isSome_map, wanted?_isSome] at window
  obtain ⟨toplevel, role⟩ := isToplevel_iff.mp window
  obtain rfl := steered.wanted toplevel.pending (wanted?_of_role role)
  exact heading_of_agreed steered.fitting role agreed heads

end Steered

end Surface

namespace Shell

/-! ### What was asked of a window -/

/-- What is asked of the window on a surface after one more act. A surface that is gone is asked for
nothing. -/
def asks (shell : Shell) (id : SurfaceId) (state : ToplevelState) (act : Act) : ToplevelState :=
  if (shell.perform act).shell.surfaces.contains id then
    match shell.asked? id act with
    | some change => change state
    | none => state
  else {}

/-- **The state that was asked of the window on a surface**: the flags and the size of the last calls
that named them, each size between the bounds of its time. -/
def asked (shell : Shell) (id : SurfaceId) (state : ToplevelState) : List Act → ToplevelState
  | [] => state
  | act :: acts => (shell.perform act).shell.asked id (shell.asks id state act) acts

theorem asked_snoc (shell : Shell) (id : SurfaceId) (state : ToplevelState) (acts : List Act)
    (act : Act) :
    shell.asked id state (acts ++ [act]) =
      (shell.performAll acts).asks id (shell.asked id state acts) act := by
  induction acts generalizing shell state with
  | nil => rfl
  | cons first acts ih => exact ih _ _

/-! ### Calls that are overlooked -/

/-- An act is a call on the window of a surface, and it is overlooked. -/
def Overlooks (shell : Shell) (id : SurfaceId) (act : Act) : Prop :=
  ∃ surface change, shell.surfaces.get? id = some surface ∧ shell.asked? id act = some change ∧
    surface.Overlooks change

/-- An act neither asks anything of the window on a surface nor sends it a configure. -/
def Spares (shell : Shell) (id : SurfaceId) (act : Act) : Prop :=
  shell.asked? id act = none ∧ (shell.perform act).shell.sentTo id = shell.sentTo id

/-- No act of a run concerns the window on a surface. -/
def SparesAll (shell : Shell) (id : SurfaceId) : List Act → Prop
  | [] => True
  | act :: acts => shell.Spares id act ∧ (shell.perform act).shell.SparesAll id acts

/-- **The last call on the window of a surface was overlooked**, and nothing has been sent since. -/
def LastOverlooked (shell : Shell) (id : SurfaceId) (acts : List Act) : Prop :=
  ∃ front act back, acts = front ++ act :: back ∧ (shell.performAll front).Overlooks id act ∧
    (shell.performAll (front ++ [act])).SparesAll id back

theorem sparesAll_snoc {shell : Shell} {id : SurfaceId} {acts : List Act} {act : Act} :
    shell.SparesAll id (acts ++ [act]) ↔
      shell.SparesAll id acts ∧ (shell.performAll acts).Spares id act := by
  induction acts generalizing shell with
  | nil => simp [SparesAll]
  | cons first acts ih =>
    rw [List.cons_append, SparesAll, SparesAll, ih, performAll_cons, and_assoc]

theorem lastOverlooked_snoc {shell : Shell} {id : SurfaceId} {acts : List Act} {act : Act} :
    shell.LastOverlooked id (acts ++ [act]) ↔
      (shell.performAll acts).Overlooks id act ∨
        shell.LastOverlooked id acts ∧ (shell.performAll acts).Spares id act := by
  constructor
  · rintro ⟨front, last, back, same, overlooks, spared⟩
    rcases List.eq_nil_or_concat back with rfl | ⟨back, final, rfl⟩
    · obtain ⟨rfl, rfl⟩ := List.append_singleton_inj.mp same
      exact .inl overlooks
    · rw [List.concat_eq_append] at same spared
      rw [← List.cons_append, ← List.append_assoc] at same
      obtain ⟨rfl, rfl⟩ := List.append_singleton_inj.mp same
      obtain ⟨before, after⟩ := sparesAll_snoc.mp spared
      refine .inr ⟨⟨front, last, back, rfl, overlooks, before⟩, ?_⟩
      rwa [← performAll_append, List.append_assoc, List.singleton_append] at after
  · rintro (overlooks | ⟨⟨front, last, back, rfl, overlooks, spared⟩, spares⟩)
    · exact ⟨acts, act, [], rfl, overlooks, trivial⟩
    · refine ⟨front, last, back ++ [act], by simp, overlooks, sparesAll_snoc.mpr ⟨spared, ?_⟩⟩
      rwa [← performAll_append, List.append_assoc, List.singleton_append]

/-! ### Runs -/

section Acts

variable {shell : Shell} {id : SurfaceId} {act : Act}

theorem asks_of_asked {after : Surface} {change : ToplevelState → ToplevelState}
    (state : ToplevelState) (present : (shell.perform act).shell.surfaces.get? id = some after)
    (asked : shell.asked? id act = some change) : shell.asks id state act = change state := by
  rw [asks, if_pos (by rw [Table.contains, present, Option.isSome_some]), asked]

theorem asks_of_unasked {after : Surface} (state : ToplevelState)
    (present : (shell.perform act).shell.surfaces.get? id = some after)
    (unasked : shell.asked? id act = none) : shell.asks id state act = state := by
  rw [asks, if_pos (by rw [Table.contains, present, Option.isSome_some]), unasked]

theorem not_overlooks_of_unasked (unasked : shell.asked? id act = none) :
    ¬ shell.Overlooks id act := by
  rintro ⟨_, _, -, asked, -⟩
  rw [unasked] at asked
  cases asked

/-- An act that is not about a window leaves it lost or found. -/
theorem lost_iff_of_spares {lost : Prop} (spares : shell.Spares id act) :
    (shell.Overlooks id act ∨ lost ∧ shell.Spares id act) ↔ lost :=
  ⟨fun either => either.elim (fun overlooks => absurd overlooks (not_overlooks_of_unasked spares.1))
    And.left, fun before => .inr ⟨before, spares⟩⟩

/-- A call on a window is lost exactly if it is overlooked. -/
theorem lost_iff_of_asked {lost : Prop} {surface : Surface} {change : ToplevelState → ToplevelState}
    (present : shell.surfaces.get? id = some surface) (asked : shell.asked? id act = some change) :
    (shell.Overlooks id act ∨ lost ∧ shell.Spares id act) ↔ surface.Overlooks change := by
  constructor
  · rintro (⟨found, wish, there, asks, overlooks⟩ | ⟨-, unasked, -⟩)
    · obtain rfl := Option.some.inj (present.symm.trans there)
      obtain rfl := Option.some.inj (asked.symm.trans asks)
      exact overlooks
    · rw [asked] at unasked
      cases unasked
  · exact fun overlooks => .inl ⟨surface, change, present, asked, overlooks⟩

theorem not_spares_of_sent {configure : Configure}
    (added : (shell.perform act).shell.sentTo id = shell.sentTo id ++ [configure]) :
    ¬ shell.Spares id act := fun spares => by
  have longer := congrArg List.length (added.symm.trans spares.2)
  simp at longer

/-- A surface that is steered, or that is gone and was asked nothing. -/
def Steered (asked : ToplevelState) (lost : Prop) : Option Surface → Prop
  | none => asked = {}
  | some surface => surface.Steered asked lost

/-- **One act**: afterwards a window is steered to what has been asked by then. It is lost if the act
is overlooked, or if it was lost before and is spared. -/
theorem Steered.perform {asked : ToplevelState} {lost : Prop} (roled : shell.Roled) (act : Act)
    (steered : Steered asked lost (shell.surfaces.get? id)) :
    Steered (shell.asks id asked act) (shell.Overlooks id act ∨ lost ∧ shell.Spares id act)
      ((shell.perform act).shell.surfaces.get? id) := by
  obtain ⟨sent, added, turn⟩ := perform_turn roled act id
  have kept : shell.asked? id act = none → sent = [] → ∀ {after : Surface},
      (shell.perform act).shell.surfaces.get? id = some after → after.Steered asked lost →
        after.Steered (shell.asks id asked act)
          (shell.Overlooks id act ∨ lost ∧ shell.Spares id act) := by
    rintro unasked rfl after present still
    rw [asks_of_unasked asked present unasked,
      propext (lost_iff_of_spares ⟨unasked, added.trans (List.append_nil _)⟩)]
    exact still
  generalize before : shell.surfaces.get? id = earlier at turn steered
  generalize final : (shell.perform act).shell.surfaces.get? id = later at turn
  cases turn with
  | rest _ unasked =>
    cases earlier with
    | none => exact if_neg (by simp [Table.contains, final])
    | some surface => exact kept unasked rfl final steered
  | window => exact kept rfl rfl final (.new _ fun _ same => steered ▸ (Option.some.inj same).symm)
  | popup => exact kept rfl rfl final (.new _ fun _ same => by cases same)
  | vanish => exact if_neg (by simp [Table.contains, final])
  | declareMin size done | declareMax size done =>
    exact kept rfl rfl final (steered.declare done fun _ => ⟨rfl, rfl⟩)
  | ack raw done => exact kept rfl rfl final (steered.ack done)
  | commit commit done => exact kept rfl rfl final (steered.commit done)
  | invite commit done due =>
    have latched := Surface.Steered.commit steered done
    have found : ¬ (shell.Overlooks id (.request (.commit id commit)) ∨
        lost ∧ shell.Spares id (.request (.commit id commit))) := by
      rintro (overlooks | ⟨-, spares⟩)
      · exact not_overlooks_of_unasked rfl overlooks
      · exact not_spares_of_sent added spares
    rw [asks_of_unasked asked final rfl]
    exact .told latched.fitting latched.wanted due found
  | agree wish due =>
    rw [asks_of_asked asked final wish, propext (lost_iff_of_asked before wish)]
    exact steered.agree due
  | propose wish due =>
    rw [asks_of_asked asked final wish, propext (lost_iff_of_asked before wish)]
    exact .told (steered.fitting.setPending _) (steered.wanted_setPending _) due
      (Surface.not_overlooks_of_proposed due)

end Acts

/-- **Whole runs**: from a shell where a surface is not there yet, the window on it is steered to what
was asked in the run, and lost if its last call was overlooked. -/
theorem steered_performAll {start : Shell} (roled : start.Roled) (id : SurfaceId)
    (absent : start.surfaces.get? id = none) (acts : List Act) :
    Steered (start.asked id {} acts) (start.LastOverlooked id acts)
      ((start.performAll acts).surfaces.get? id) := by
  induction acts using List.reverseRecOn with
  | nil =>
    rw [performAll_nil, absent]
    exact rfl
  | append_singleton acts act ih =>
    rw [asked_snoc, propext lastOverlooked_snoc, performAll_append]
    exact ih.perform (performAll_roled roled acts) act

/-- **What a window comes to rest in.** After any run from the start, the state a window is wanted to
have is the one asked of it. Once it has been configured, with nothing in flight and nothing
acknowledged that waits for a commit, its committed state is the same exactly if its last call was not
overlooked. -/
theorem committed_state_eq_asked_iff (settings : Settings) (seats : Table SeatId SeatMode)
    (refusals : Nat) (acts : List Act) (id : ViewId) (view : View) (surface : Surface)
    (toplevel : Toplevel)
    (window : ((fresh settings seats refusals).performAll acts).window? id =
      some (view, surface, toplevel))
    (configured : surface.configured) (answered : surface.inflight = [])
    (settled : surface.acked = none) :
    toplevel.pending = (fresh settings seats refusals).asked view.surface {} acts ∧
      (toplevel.current = toplevel.pending ↔
        ¬ (fresh settings seats refusals).LastOverlooked view.surface acts) := by
  obtain ⟨-, present, role⟩ := window?_eq_some.mp window
  have steered := steered_performAll (fresh_roled settings seats refusals) view.surface rfl acts
  rw [present] at steered
  have wanted := steered.wanted _ (Surface.wanted?_of_role role)
  have heading := Surface.heading?_of_settled role answered settled
  rw [if_pos configured] at heading
  have lost := steered.heading (Surface.isToplevel_iff.mpr ⟨toplevel, role⟩) _ heading
  rw [Payload.toplevel.injEq, ← wanted] at lost
  exact ⟨wanted, lost⟩

/-- A window is given the focus and loses it again before the client has committed the focus. -/
def restoredFocus : List Act :=
  [ .request (.newToplevel ⟨1⟩), .request (.commit ⟨1⟩ {}), .request (.ack ⟨1⟩ 1),
    .request (.commit ⟨1⟩ { buffer := .attach { width := 100, height := 100 } }),
    .call ⟨1⟩ (.activate true), .request (.ack ⟨1⟩ 2), .call ⟨1⟩ (.activate false),
    .request (.commit ⟨1⟩ {}) ]

/-- The last call of this run is overlooked. -/
theorem committed_state_eq_asked_iff_restoredFocus :
    ∃ view surface toplevel,
      ((fresh { pingOnCreate := false } .empty 0).performAll restoredFocus).window? ⟨1⟩ =
          some (view, surface, toplevel) ∧
        surface.configured ∧ surface.inflight = [] ∧ surface.acked = none ∧
          (fresh { pingOnCreate := false } .empty 0).LastOverlooked view.surface restoredFocus := by
  refine ⟨_, _, _, rfl, rfl, rfl, rfl, ?_⟩
  have outcome := committed_state_eq_asked_iff { pingOnCreate := false } .empty 0 restoredFocus ⟨1⟩
    _ _ _ rfl rfl rfl rfl
  by_contra seen
  exact absurd (outcome.2.mpr seen) (by decide)

/-- The window keeps the focus, although it was asked to give it up and waits for nothing. -/
theorem restored_focus_is_lost :
    ∃ view surface toplevel,
      ((fresh { pingOnCreate := false } .empty 0).performAll restoredFocus).window? ⟨1⟩ =
          some (view, surface, toplevel) ∧
        surface.configured ∧ surface.inflight = [] ∧ surface.acked = none ∧
          toplevel.pending = {} ∧ toplevel.current = { activated := true } :=
  ⟨_, _, _, rfl, rfl, rfl, rfl, rfl, rfl⟩

end Shell

end WindowShell
