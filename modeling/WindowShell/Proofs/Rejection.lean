/-
**Rejected steps.**

A fault takes nothing back. But a step that is rejected leaves the shell as it was all the same: surfaces,
views, popups and listeners, the counts of serials and popups, the messages and the log of the desktop. A
surface is entered before it is asked to take its role, but one that cannot take it was there before. A
surface that refuses has made its checks before any change. And destroying a surface could only get stuck
half-way if a surface hung on itself, which none does. Whatever comes after such a step cannot tell that it
was ever tried. So the steps that a report lists as rejected may be struck from the scenario, and its replay
ends the same way, with nothing rejected any more:

* `handle_traceless`, `apply_traceless`: a rejected request, and a rejected step, leave no trace;
* `runFrom_acceptedAmong`: a run without the steps it rejected;
* `rejected_steps_leave_no_trace`: both, for steps and for whole scenarios.
-/

import WindowShell.Proofs.Ancestry

namespace WindowShell

namespace Shell

/-! ### One step -/

/-- A reply that carries a fault leaves the shell as it was. -/
def Traceless (shell : Shell) (reply : Reply) : Prop :=
  reply.fault ≠ none → reply.shell = shell

section Replies

variable (shell : Shell)

/-- A request is rejected where it stands, or it is carried out. -/
theorem traceless_of_answer {reply : Reply}
    (answer : (∃ fault, reply = shell.reject fault) ∨ ∃ after : Shell, reply = after.accept) :
    shell.Traceless reply := by
  intro faulty
  rcases answer with ⟨fault, rfl⟩ | ⟨after, rfl⟩
  · rfl
  · exact absurd rfl faulty

theorem newToplevel_traceless (id : SurfaceId) : shell.Traceless (shell.newToplevel id) := by
  apply traceless_of_answer
  rw [newToplevel_eq]
  split
  · exact .inl ⟨_, rfl⟩
  · exact .inr ⟨_, rfl⟩

theorem newPopup_traceless (id parent : SurfaceId) (geometry : Rectangle) :
    shell.Traceless (shell.newPopup id parent geometry) := by
  apply traceless_of_answer
  rw [newPopup_eq]
  split
  · exact .inl ⟨_, rfl⟩
  · split
    · exact .inl ⟨_, rfl⟩
    · exact .inr ⟨_, rfl⟩

theorem changeSurface_traceless (id : SurfaceId) {act : SurfaceM Unit} (careful : act.Careful) :
    shell.Traceless (shell.changeSurface id act) := by
  apply traceless_of_answer
  rcases changeSurface_cases shell id careful with refused | ⟨_, after, -, -, taken⟩
  · exact .inl refused
  · exact .inr ⟨_, taken⟩

theorem forward_traceless (id : SurfaceId) (signal : Signal) :
    shell.Traceless (shell.forward id signal) :=
  traceless_of_answer _ ((forward_cases shell id signal).imp_right fun taken => ⟨_, taken⟩)

theorem commit_traceless (id : SurfaceId) (commit : Commit) :
    shell.Traceless (shell.commit id commit) := by
  apply traceless_of_answer
  rcases commit_cases shell id commit with refused | ⟨_, _, _, -, -, taken⟩
  · exact .inl refused
  · exact .inr ⟨_, taken⟩

/-- Destroying a surface that is there meets no fault on the way down. -/
theorem destroy_traceless {shell : Shell} (sorted : Lineage.ParentsFirst shell.lineage)
    (root : SurfaceId) : shell.Traceless (shell.destroy root) := by
  apply traceless_of_answer
  cases present : shell.surfaces.get? root with
  | none => exact .inl ⟨_, destroy_of_absent present⟩
  | some surface => exact .inr ⟨_, destroy_of_present sorted present⟩

/-- A rejected request leaves no trace, whatever hangs on what, unless it is to destroy a surface. -/
theorem handle_traceless_of_other {request : Request} (other : ∀ root, request ≠ .destroy root) :
    shell.Traceless (shell.handle request) := by
  cases request with
  | newToplevel surface => exact shell.newToplevel_traceless surface
  | newPopup surface parent geometry => exact shell.newPopup_traceless surface parent geometry
  | setMinSize | setMaxSize | ack => exact shell.changeSurface_traceless _ (by simp)
  | commit surface commit => exact shell.commit_traceless surface commit
  | move | resize | maximize | fullscreen => exact shell.forward_traceless _ _
  | destroy root => exact absurd rfl (other root)

/-- **A rejected request leaves no trace**, where parents arrived before their children. -/
theorem handle_traceless {shell : Shell} (sorted : Lineage.ParentsFirst shell.lineage)
    (request : Request) : shell.Traceless (shell.handle request) := by
  by_cases destroys : ∃ root, request = .destroy root
  · obtain ⟨root, rfl⟩ := destroys
    exact destroy_traceless sorted root
  · exact shell.handle_traceless_of_other fun root same => destroys ⟨root, same⟩

theorem ackNewest_traceless (id : SurfaceId) : shell.Traceless (shell.ackNewest id) := by
  unfold ackNewest
  split
  · exact traceless_of_answer _ (.inl ⟨_, rfl⟩)
  · split
    · exact traceless_of_answer _ (.inl ⟨_, rfl⟩)
    · exact shell.changeSurface_traceless _ (by simp)

/-- Window management is never rejected. -/
theorem callOf_traceless (surface : SurfaceId) (call : WindowCall) :
    shell.Traceless (shell.callOf surface call) := by
  apply traceless_of_answer
  unfold callOf
  split <;> exact .inr ⟨_, rfl⟩

/-- **A rejected step leaves no trace.** -/
theorem apply_traceless {shell : Shell} (sorted : Lineage.ParentsFirst shell.lineage) (step : Step) :
    shell.Traceless (shell.apply step) := by
  cases step with
  | ack surface serial =>
    cases serial with
    | none => exact shell.ackNewest_traceless surface
    | some serial => exact handle_traceless sorted _
  | activate | resize | moveResize | maximize | fullscreen | close | destroyView =>
    exact shell.callOf_traceless _ _
  | _ => exact handle_traceless sorted _

end Replies

/-! ### Whole runs -/

/-- The steps that are not among those rejected, where the first step has the given number. -/
def acceptedAmong (errors : List StepError) (first : Nat) (steps : List Step) : List Step :=
  ((steps.zipIdx first).filter fun entry => entry.2 ∉ errors.map StepError.step).map Prod.fst

/-- The rejected steps of a run are numbered from its first step on. -/
theorem le_of_mem_errors (shell : Shell) (first : Nat) (steps : List Step) :
    ∀ number ∈ (shell.runFrom first steps).2.map StepError.step, first ≤ number := by
  induction steps generalizing shell first with
  | nil => simp [runFrom]
  | cons step steps ih =>
    intro number member
    have later := ih (shell.apply step).shell (first + 1) number
    simp only [runFrom] at member
    split at member
    · exact Nat.le_of_succ_le (later member)
    · rcases List.mem_cons.mp member with here | rest
      · exact Nat.le_of_eq here.symm
      · exact Nat.le_of_succ_le (later rest)

theorem acceptedAmong_cons_of_not_mem {errors : List StepError} {first : Nat}
    (accepted : first ∉ errors.map StepError.step) (step : Step) (steps : List Step) :
    acceptedAmong errors first (step :: steps) =
      step :: acceptedAmong errors (first + 1) steps := by
  simp only [acceptedAmong, List.zipIdx_cons]
  rw [List.filter_cons_of_pos (by simpa using accepted), List.map_cons]

/-- The first step is struck, and its number does not come up again. -/
theorem acceptedAmong_cons_of_rejected (errors : List StepError) (first : Nat) (fault : Fault)
    (step : Step) (steps : List Step) :
    acceptedAmong ({ step := first, fault } :: errors) first (step :: steps) =
      acceptedAmong errors (first + 1) steps := by
  simp only [acceptedAmong, List.zipIdx_cons, List.map_cons]
  rw [List.filter_cons_of_neg (by simp)]
  refine congrArg (List.map Prod.fst) (List.filter_congr fun entry member => ?_)
  have later : first + 1 ≤ entry.2 := List.le_snd_of_mem_zipIdx member
  have differ : entry.2 ≠ first := by omega
  simp [differ]

/-- **A run without the steps it rejected** ends in the same shell and rejects nothing. -/
theorem runFrom_acceptedAmong {count : Nat} {shell : Shell} (reached : Reached count shell) (first : Nat)
    (steps : List Step) (other : Nat) :
    shell.runFrom other (acceptedAmong (shell.runFrom first steps).2 first steps) =
      ((shell.runFrom first steps).1, []) := by
  induction steps generalizing count shell first other with
  | nil => rfl
  | cons step steps ih =>
    have traceless := apply_traceless reached.parentsFirst step
    have numbered := le_of_mem_errors (shell.apply step).shell (first + 1) steps
    cases fault : (shell.apply step).fault with
    | none =>
      have accepted : first ∉
          ((shell.apply step).shell.runFrom (first + 1) steps).2.map StepError.step := by
        intro member
        have late := numbered first member
        omega
      simp only [runFrom, fault, acceptedAmong_cons_of_not_mem accepted,
        ih (reached.apply step) (first + 1) (other + 1)]
    | some cause =>
      have same : (shell.apply step).shell = shell := traceless (by simp [fault])
      simp only [runFrom, fault, acceptedAmong_cons_of_rejected]
      rw [same]
      exact ih reached (first + 1) other

end Shell

namespace Scenario

/-- The scenario without the steps that a report lists as rejected. -/
def strike (scenario : Scenario) (errors : List StepError) : Scenario :=
  { scenario with steps := Shell.acceptedAmong errors 0 scenario.steps }

/-- **Rejected steps leave no trace.** Whatever happened to a shell before, a step that is rejected changes
nothing at all in it. So a scenario without exactly the steps that its report lists as rejected has the same
report, except that nothing is rejected in it. -/
theorem rejected_steps_leave_no_trace :
    (∀ (count : Nat) (shell : Shell), Shell.Reached count shell → ∀ (step : Step) (fault : Fault),
      (shell.apply step).fault = some fault → (shell.apply step).shell = shell) ∧
      ∀ (scenario : Scenario) (settings : Settings),
        (scenario.strike (scenario.replay settings).errors).replay settings =
          { scenario.replay settings with errors := [] } := by
  constructor
  · intro count shell reached step fault rejected
    exact Shell.apply_traceless reached.parentsFirst step (by simp [rejected])
  · intro scenario settings
    have struck : (scenario.start settings).runFrom 0
        (scenario.strike (scenario.replay settings).errors).steps =
          (((scenario.start settings).runFrom 0 scenario.steps).1, []) :=
      Shell.runFrom_acceptedAmong (.start scenario settings) 0 scenario.steps 0
    calc (scenario.strike (scenario.replay settings).errors).replay settings
        = .of ((scenario.start settings).runFrom 0 _).1
            ((scenario.start settings).runFrom 0 _).2 := rfl
      _ = .of ((scenario.start settings).runFrom 0 scenario.steps).1 [] := by rw [struck]
      _ = { scenario.replay settings with errors := [] } := rfl

/-- A client that is too early, asks for a second role, and names what does not exist. -/
def hastyClient : Scenario where
  steps :=
    [ .newToplevel ⟨1⟩, .commit ⟨1⟩ (some { width := 9, height := 9 }) false none,
      .ack ⟨1⟩ none, .newToplevel ⟨1⟩, .newPopup ⟨2⟩ ⟨7⟩ {}, .commit ⟨1⟩ none false none,
      .destroy ⟨7⟩ ]

/-- Its window is not given a second role. Two of its seven steps are carried out, and the other five might
as well be left out. -/
theorem rejected_steps_leave_no_trace_hastyClient :
    ∃ shell, shell = ((hastyClient.start {}).apply (.newToplevel ⟨1⟩)).shell ∧
      (shell.apply (.newToplevel ⟨1⟩)).fault = some (.refused ⟨1⟩ .roleAlreadyAssigned) ∧
        (shell.apply (.newToplevel ⟨1⟩)).shell = shell ∧
          (hastyClient.replay {}).errors.length = 5 ∧
            ({ steps := [.newToplevel ⟨1⟩, .commit ⟨1⟩ none false none] } : Scenario).replay {} =
              { hastyClient.replay {} with errors := [] } :=
  ⟨_, rfl, rfl,
    rejected_steps_leave_no_trace.1 1 _ ((Shell.Reached.start hastyClient {}).apply _) _ _ rfl, rfl,
    rejected_steps_leave_no_trace.2 hastyClient {}⟩

end Scenario

end WindowShell
