/-
**What a surface makes of what it is asked.**

A surface makes all its checks before it changes anything. So what it refuses leaves no trace on it, and
an operation comes down to a function: it gives the surface afterwards, or the cause of the refusal.

* `assignRole_careful`, `changeToplevel_careful`, `ack_careful`, `commit_careful`: a refusal leaves no trace;
* `assignRole_eq`, `changeToplevel_eq`, `ack_eq`, `commit_eq`: what an operation comes down to.
-/

import WindowShell.Surface

namespace WindowShell

/-- Whatever state an attempt is made on, a fault leaves no trace. -/
def Attempt.Careful {ε σ α : Type} (act : Attempt ε σ α) : Prop := ∀ state, act.LeavesNoTrace state

namespace Surface

/-- What a surface answers, and the surface afterwards, unless it refuses. -/
def answer {α : Type} (surface : Surface) (act : SurfaceM α) : Except Refusal (Surface × α) :=
  match act.runOn surface with
  | (.ok value, left) => .ok (left, value)
  | (.error cause, _) => .error cause

/-- The surface after it was asked something, unless it refuses. -/
def obey (surface : Surface) (act : SurfaceM Unit) : Except Refusal Surface :=
  (surface.answer act).map Prod.fst

theorem obey_of_answer {surface after : Surface} {act : SurfaceM Unit} {value : Unit}
    (answered : surface.answer act = .ok (after, value)) : surface.obey act = .ok after := by
  rw [obey, answered]
  rfl

/-- The surface with a role, unless it has one. -/
def assignRole (surface : Surface) (role : Role) : Except Refusal Surface := surface.obey (.assignRole role)

/-- The surface with the state of its window changed, unless it is none. -/
def changeToplevel (surface : Surface) (change : Toplevel → Toplevel) : Except Refusal Surface :=
  surface.obey (.changeToplevel change)

/-- The surface with a least size declared, unless it is no window. -/
def setMinSize (surface : Surface) (size : Extent) : Except Refusal Surface := surface.obey (.setMinSize size)

/-- The surface with a greatest size declared, unless it is no window. -/
def setMaxSize (surface : Surface) (size : Extent) : Except Refusal Surface := surface.obey (.setMaxSize size)

/-- The surface with a configure acknowledged, unless that is not in flight. -/
def ack (surface : Surface) (raw : UInt32) : Except Refusal Surface := surface.obey (.ack raw)

/-- The surface after a commit with what that means for the shell, unless the commit is refused. -/
def commit (surface : Surface) (commit : Commit) : Except Refusal (Surface × CommitEffect) :=
  surface.answer (.commit commit)

end Surface

namespace SurfaceM

open Attempt

variable {α : Type} (surface : Surface)

/-- What a careful operation does is what it answers. -/
theorem runOn_of_careful {act : SurfaceM α} (careful : act.Careful) :
    act.runOn surface =
      match surface.answer act with
      | .ok (after, value) => (.ok value, after)
      | .error cause => (.error cause, surface) := by
  unfold Surface.answer
  cases ran : act.runOn surface with
  | mk outcome left =>
    cases outcome with
    | ok value => rfl
    | error cause =>
      have kept := careful surface cause (congrArg Prod.fst ran)
      rw [ran] at kept
      obtain rfl : left = surface := kept
      rfl

/-! ### What the operations do -/

theorem runOn_assignRole (role : Role) :
    (assignRole role).runOn surface =
      if surface.role = .unset then (.ok (), { surface with role })
      else (.error .roleAlreadyAssigned, surface) := by
  by_cases unset : surface.role = .unset <;> simp [assignRole, unset]

theorem runOn_changeToplevel (change : Toplevel → Toplevel) :
    (changeToplevel change).runOn surface =
      if surface.isToplevel then (.ok (), { surface with role := surface.role.mapToplevel change })
      else (.error .notToplevel, surface) := by
  by_cases window : surface.isToplevel <;> simp [changeToplevel, window]

theorem runOn_commit (commit : Commit) :
    (SurfaceM.commit commit).runOn surface =
      if surface.role = .unset then (.error .noRole, surface)
      else if surface.attachesTooEarly commit then (.error .unconfiguredBuffer, surface)
      else
        (.ok (surface.latchAck.latchContent commit).settle.2,
          (surface.latchAck.latchContent commit).settle.1) := by
  by_cases unset : surface.role = .unset
  · simp [SurfaceM.commit, unset]
  · by_cases early : surface.attachesTooEarly commit <;> simp [SurfaceM.commit, unset, early]

/-- The configure that is acknowledged is the first with the serial, and what is behind it stays in
flight. -/
theorem runOn_ack (raw : UInt32) :
    (ack raw).runOn surface =
      match surface.inflight.dropWhile fun configure => configure.serial.val ≠ raw with
      | acked :: inflight => (.ok (), { surface with inflight, acked := some acked })
      | [] => (.error (.invalidSerial raw), surface) := by
  unfold ack
  rw [List.dropWhile_eq_drop_findIdx_not]
  cases known : Serial.ofRaw? raw with
  | none =>
    have passed : ∀ configure ∈ surface.inflight, (!decide (configure.serial.val ≠ raw)) = false := by
      intro configure _
      have differs : configure.serial.val ≠ raw := fun same =>
        configure.serial.ne_zero (same.trans (Serial.ofRaw?_eq_none_iff.mp known))
      simp [differs]
    rw [List.findIdx_eq_length.mpr passed, List.drop_length]
    simp
  | some serial =>
    have named : (fun configure : Configure => !decide (configure.serial.val ≠ raw)) =
        fun configure => decide (configure.serial = serial) := by
      funext configure
      have same : configure.serial.val = serial.val ↔ configure.serial = serial :=
        ⟨Serial.ext, congrArg Serial.val⟩
      rw [Serial.ofRaw?_eq_some_iff.mp known]
      simp [same]
    rw [named]
    cases found : surface.inflight.findIdx? fun configure => configure.serial = serial with
    | none =>
      have passed := List.findIdx_eq_length.mpr (List.findIdx?_eq_none_iff.mp found)
      rw [passed, List.drop_length]
      simp [found]
    | some position =>
      obtain ⟨inside, first⟩ := List.findIdx?_eq_some_iff_findIdx_eq.mp found
      have last : (surface.inflight.take (position + 1)).getLast? = some surface.inflight[position] := by
        rw [← List.take_append_getElem inside, List.getLast?_concat]
      rw [first, List.drop_eq_getElem_cons inside]
      simp [found, last]

/-! ### What they come down to -/

@[simp] theorem assignRole_careful (role : Role) : (assignRole role).Careful := by
  intro surface cause refused
  rw [runOn_assignRole] at refused ⊢
  split at refused
  · cases refused
  · next taken => rw [if_neg taken]

@[simp] theorem changeToplevel_careful (change : Toplevel → Toplevel) :
    (changeToplevel change).Careful := by
  intro surface cause refused
  rw [runOn_changeToplevel] at refused ⊢
  split at refused
  · cases refused
  · next other => rw [if_neg other]

@[simp] theorem setMinSize_careful (size : Extent) : (setMinSize size).Careful :=
  changeToplevel_careful _

@[simp] theorem setMaxSize_careful (size : Extent) : (setMaxSize size).Careful :=
  changeToplevel_careful _

@[simp] theorem ack_careful (raw : UInt32) : (ack raw).Careful := by
  intro surface cause refused
  rw [runOn_ack] at refused ⊢
  split at refused
  · cases refused
  · rfl

@[simp] theorem commit_careful (commit : Commit) : (SurfaceM.commit commit).Careful := by
  intro surface cause refused
  rw [runOn_commit] at refused ⊢
  by_cases unset : surface.role = .unset
  · rw [if_pos unset]
  · rw [if_neg unset] at refused ⊢
    split at refused
    · next early => rw [if_pos early]
    · cases refused

end SurfaceM

namespace Surface

variable (surface : Surface)

theorem assignRole_eq (role : Role) :
    surface.assignRole role =
      if surface.role = .unset then .ok { surface with role } else .error .roleAlreadyAssigned := by
  rw [assignRole, obey, answer, SurfaceM.runOn_assignRole]
  by_cases unset : surface.role = .unset
  · rw [if_pos unset, if_pos unset]
    rfl
  · rw [if_neg unset, if_neg unset]
    rfl

theorem changeToplevel_eq (change : Toplevel → Toplevel) :
    surface.changeToplevel change =
      if surface.isToplevel then .ok { surface with role := surface.role.mapToplevel change }
      else .error .notToplevel := by
  rw [changeToplevel, obey, answer, SurfaceM.runOn_changeToplevel]
  by_cases window : surface.isToplevel
  · rw [if_pos window, if_pos window]
    rfl
  · rw [if_neg window, if_neg window]
    rfl

theorem ack_eq (raw : UInt32) :
    surface.ack raw =
      match surface.inflight.dropWhile fun configure => configure.serial.val ≠ raw with
      | acked :: inflight => .ok { surface with inflight, acked := some acked }
      | [] => .error (.invalidSerial raw) := by
  rw [ack, obey, answer, SurfaceM.runOn_ack]
  cases surface.inflight.dropWhile fun configure => configure.serial.val ≠ raw <;> rfl

theorem commit_eq (commit : Commit) :
    surface.commit commit =
      if surface.role = .unset then .error .noRole
      else if surface.attachesTooEarly commit then .error .unconfiguredBuffer
      else .ok (surface.latchAck.latchContent commit).settle := by
  rw [Surface.commit, answer, SurfaceM.runOn_commit]
  by_cases unset : surface.role = .unset
  · rw [if_pos unset, if_pos unset]
  · rw [if_neg unset, if_neg unset]
    by_cases early : surface.attachesTooEarly commit
    · rw [if_pos early, if_pos early]
    · rw [if_neg early, if_neg early]

end Surface

end WindowShell
