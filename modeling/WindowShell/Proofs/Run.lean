/-
**Runs of a shell.**

Two parties act on a shell: the client sends requests, and window management calls on views. A run
lets acts of both follow each other in any order, failing ones included, from a shell to which nothing
has happened yet:

* `apply_shell`: a step of a scenario is one act, or it leaves the shell as it is;
* `Reached.runFrom`: replaying steps takes no more acts than there are steps.
-/

import WindowShell.Scenario

namespace WindowShell

/-- Something that happens to a shell. -/
inductive Act
  /-- The client sends a request. -/
  | request (request : Request)
  /-- Window management calls on a view. -/
  | call (view : ViewId) (call : WindowCall)
deriving DecidableEq

namespace Shell

/-- Carries out an act. -/
def perform (shell : Shell) : Act → Reply
  | .request request => shell.handle request
  | .call view call => (shell.call view call).accept

/-- Carries out acts in order, whether or not earlier ones were rejected. -/
def performAll (shell : Shell) (acts : List Act) : Shell :=
  acts.foldl (fun shell act => (shell.perform act).shell) shell

@[simp] theorem performAll_nil (shell : Shell) : shell.performAll [] = shell := rfl

@[simp] theorem performAll_cons (shell : Shell) (act : Act) (acts : List Act) :
    shell.performAll (act :: acts) = (shell.perform act).shell.performAll acts := rfl

theorem performAll_append (shell : Shell) (acts more : List Act) :
    shell.performAll (acts ++ more) = (shell.performAll acts).performAll more :=
  List.foldl_append

/-- A shell to which nothing has happened, with any settings and seats, on a desktop that declines so
many views. -/
def fresh (settings : Settings) (seats : Table SeatId SeatMode) (refusals : Nat) : Shell :=
  { settings, desktop := { seats, refusals } }

/-- **The shells that at most so many acts lead to.** -/
inductive Reached : Nat → Shell → Prop
  | fresh (count : Nat) (settings : Settings) (seats : Table SeatId SeatMode) (refusals : Nat) :
      Reached count (.fresh settings seats refusals)
  | act {count : Nat} {shell : Shell} (act : Act) :
      Reached count shell → Reached (count + 1) (shell.perform act).shell

namespace Reached

theorem mono {count : Nat} {shell : Shell} (reached : Reached count shell) :
    ∀ {more : Nat}, count ≤ more → Reached more shell := by
  induction reached with
  | fresh _ settings seats refusals => exact fun _ => .fresh _ settings seats refusals
  | act act _ ih =>
    intro more enough
    obtain ⟨less, rfl⟩ : ∃ less, more = less + 1 := ⟨more - 1, by omega⟩
    exact .act act (ih (by omega))

theorem performAll {count : Nat} {shell : Shell} (reached : Reached count shell)
    (acts : List Act) : Reached (count + acts.length) (shell.performAll acts) := by
  induction acts generalizing count shell with
  | nil => exact reached
  | cons act acts ih =>
    rw [List.length_cons, Nat.add_comm acts.length, ← Nat.add_assoc]
    exact ih (.act act reached)

/-- There is no surface before the first act. -/
theorem untouched {start : Shell} (begins : Reached 0 start) (id : SurfaceId) :
    start.surfaces.get? id = none := by
  cases begins
  rfl

end Reached

/-! ### Steps as acts -/

/-- A call on the window of a surface, if that has a view. -/
def callAct? (shell : Shell) (surface : SurfaceId) (call : WindowCall) : Option Act :=
  (shell.viewOf? surface).map fun view => .call view call

/-- The act a step stands for. There is none if a call finds no view, or an acknowledgement nothing in
flight. -/
def act? (shell : Shell) : Step → Option Act
  | .newToplevel surface => some (.request (.newToplevel surface))
  | .newPopup surface parent geometry => some (.request (.newPopup surface parent geometry))
  | .setMinSize surface size => some (.request (.setMinSize surface size))
  | .setMaxSize surface size => some (.request (.setMaxSize surface size))
  | .ack surface none =>
    ((shell.surfaces.get? surface).bind Surface.newestSerial?).map fun serial =>
      .request (.ack surface serial.val)
  | .ack surface (some serial) => some (.request (.ack surface serial))
  | .commit surface buffer removeBuffer geometry =>
    some (.request (.commit surface { buffer := Step.attachment buffer removeBuffer, geometry }))
  | .requestMove surface seat => some (.request (.move surface seat))
  | .requestResize surface seat edges => some (.request (.resize surface seat edges))
  | .requestMaximize surface maximized => some (.request (.maximize surface maximized))
  | .requestFullscreen surface fullscreen output =>
    some (.request (.fullscreen surface fullscreen output))
  | .destroy surface => some (.request (.destroy surface))
  | .activate surface active => shell.callAct? surface (.activate active)
  | .resize surface size => shell.callAct? surface (.resize size)
  | .moveResize surface position size => shell.callAct? surface (.moveResize position size)
  | .maximize surface maximized => shell.callAct? surface (.maximize maximized)
  | .fullscreen surface fullscreen => shell.callAct? surface (.fullscreen fullscreen)
  | .close surface => shell.callAct? surface .close
  | .destroyView surface => shell.callAct? surface .destroy

/-- The shell after an act, or the shell itself without one. -/
def after (shell : Shell) (act : Option Act) : Shell :=
  (act.map fun act => (shell.perform act).shell).getD shell

theorem callOf_shell (shell : Shell) (surface : SurfaceId) (call : WindowCall) :
    (shell.callOf surface call).shell = shell.after (shell.callAct? surface call) := by
  unfold callOf callAct? after
  cases shell.viewOf? surface <;> rfl

theorem ackNewest_shell (shell : Shell) (surface : SurfaceId) :
    (shell.ackNewest surface).shell = shell.after (shell.act? (.ack surface none)) := by
  simp only [ackNewest, act?, after]
  cases shell.surfaces.get? surface with
  | none => rfl
  | some found =>
    simp only [Option.bind_some]
    cases found.newestSerial? <;> rfl

/-- **A step is one act, or nothing happens.** -/
theorem apply_shell (shell : Shell) (step : Step) :
    (shell.apply step).shell = shell.after (shell.act? step) := by
  cases step with
  | ack surface serial =>
    cases serial with
    | none => exact ackNewest_shell shell surface
    | some serial => rfl
  | activate | resize | moveResize | maximize | fullscreen | close | destroyView =>
    exact callOf_shell _ _ _
  | _ => rfl

/-- Replaying steps is applying them in order. -/
theorem runFrom_fst (shell : Shell) (index : Nat) (steps : List Step) :
    (shell.runFrom index steps).1 =
      steps.foldl (fun shell step => (shell.apply step).shell) shell := by
  induction steps generalizing shell index with
  | nil => rfl
  | cons step steps ih =>
    rw [List.foldl_cons, ← ih _ (index + 1)]
    simp only [runFrom]
    split <;> rfl

namespace Reached

theorem apply {count : Nat} {shell : Shell} (reached : Reached count shell) (step : Step) :
    Reached (count + 1) (shell.apply step).shell := by
  rw [apply_shell, after]
  cases shell.act? step with
  | none => exact reached.mono (Nat.le_succ count)
  | some act => exact .act act reached

theorem runFrom {count : Nat} {shell : Shell} (reached : Reached count shell) (index : Nat)
    (steps : List Step) : Reached (count + steps.length) (shell.runFrom index steps).1 := by
  induction steps generalizing count shell index with
  | nil => exact reached
  | cons step steps ih =>
    have rest := ih (reached.apply step) (index + 1)
    rw [List.length_cons, Nat.add_comm steps.length, ← Nat.add_assoc]
    simp only [Shell.runFrom]
    split <;> exact rest

theorem start (scenario : Scenario) (settings : Settings) :
    Reached 0 (scenario.start settings) :=
  .fresh 0 settings _ 0

end Reached

end Shell

end WindowShell
