/-
**What a request or a call comes down to.**

A request is handled step by step, and a step that fails keeps what was done before it. All the same a
request that gives a role to a surface, changes one or passes a wish on is either rejected where the shell
stands, or one operation carries it out. A request to destroy a surface removes surfaces one after another.
A call on a view finds no window, or it is one of four operations on the window. Every invariant of a shell
is carried over an act operation by operation:

* `runOn_onSurface`, `runOn_arrive`: what a surface refuses leaves no trace on the shell either;
* `newToplevel_cases`, `newPopup_cases`: a role is given to a new surface only;
* `changeSurface_cases`, `commit_cases`, `forward_cases`, `destroy_removes`: the other requests;
* `call_carried`: the calls;
* `configure_cases`: a surface is stored, with the configure that is due, if one is.
-/

import WindowShell.Proofs.Operations
import WindowShell.Shell.Requests
import WindowShell.Shell.Windows

namespace WindowShell

/-- What a call asks of the state of a window. Closing and forgetting ask for nothing. -/
def WindowCall.change? (bounds : SizeBounds) : WindowCall → Option (ToplevelState → ToplevelState)
  | .activate active => some fun state => { state with activated := active }
  | .resize size => some fun state => { state with size := bounds.constrain size }
  | .moveResize _ size => some fun state => { state with size := bounds.constrain size }
  | .maximize maximized => some fun state => { state with maximized }
  | .fullscreen full => some fun state => { state with fullscreen := full }
  | .close | .destroy => none

namespace Shell

/-- Every surface has a role. -/
def Roled (shell : Shell) : Prop :=
  ∀ id surface, shell.surfaces.get? id = some surface → surface.role ≠ .unset

/-- The state of a surface that is about to get a role: a new one, unless it is there already. -/
def surfaceOrNew (shell : Shell) (id : SurfaceId) : Surface := (shell.surfaces.get? id).getD {}

/-- What the shell does about a commit before the surface announces it. -/
def followed (shell : Shell) (id : SurfaceId) (surface : Surface) : CommitEffect → Shell
  | .settled => shell.putSurface id surface
  | .needsConfigure => (shell.configure id surface true).1
  | .mapped => (shell.putSurface id surface).emit id .map
  | .unmapped => (shell.putSurface id surface).emit id .unmap

variable {shell left : Shell} {id : SurfaceId} {surface : Surface} {fault : Fault}

/-! ### Steps of a request -/

theorem reply_of_ok {act : ShellM Unit} (ran : act.runOn shell = (.ok (), left)) :
    shell.reply act = left.accept := by
  rw [reply, ran]

theorem reply_of_error {act : ShellM Unit} (ran : act.runOn shell = (.error fault, left)) :
    shell.reply act = left.reject fault := by
  rw [reply, ran]

theorem reply_shell (shell : Shell) (act : ShellM Unit) :
    (shell.reply act).shell = (act.runOn shell).2 := by
  rw [reply]
  split <;> simp [accept, reject, *]

/-- To store a surface as it is changes nothing. -/
theorem putSurface_self (present : shell.surfaces.get? id = some surface) :
    shell.putSurface id surface = shell := by
  rw [putSurface, Table.insert_self present]

/-- A surface that is stored twice is as it was stored last. -/
theorem putSurface_putSurface (shell : Shell) (id : SurfaceId) (first second : Surface) :
    (shell.putSurface id first).putSurface id second = shell.putSurface id second := by
  rw [putSurface, putSurface, Table.insert_insert, putSurface]

/-- A configure is sent for the surface that is stored with it, whatever was stored before. -/
theorem configure_putSurface (shell : Shell) (id : SurfaceId) (before surface : Surface) (force : Bool) :
    (shell.putSurface id before).configure id surface force = shell.configure id surface force := by
  simp only [configure, putSurface_putSurface]
  rfl

@[simp] theorem get?_putSurface (shell : Shell) (id : SurfaceId) (surface : Surface) :
    (shell.putSurface id surface).surfaces.get? id = some surface := by
  rw [putSurface, Table.get?_insert, if_pos rfl]

end Shell

namespace ShellM

variable {shell : Shell} {id : SurfaceId} {surface : Surface} {α : Type}

theorem runOn_lookUp_of_absent (absent : shell.surfaces.get? id = none) :
    (lookUp id).runOn shell = (.error (.unknownSurface id), shell) := by
  simp [lookUp, absent]

theorem runOn_lookUp (present : shell.surfaces.get? id = some surface) :
    (lookUp id).runOn shell = (.ok surface, shell) := by
  simp [lookUp, present]

theorem runOn_onSurface_of_absent (absent : shell.surfaces.get? id = none) (act : SurfaceM α) :
    (onSurface id act).runOn shell = (.error (.unknownSurface id), shell) := by
  simp [onSurface, runOn_lookUp_of_absent absent]

/-- What a careful operation refuses leaves no trace on the shell either. -/
theorem runOn_onSurface (present : shell.surfaces.get? id = some surface) {act : SurfaceM α}
    (careful : act.Careful) :
    (onSurface id act).runOn shell =
      match surface.answer act with
      | .ok (after, value) => (.ok value, shell.putSurface id after)
      | .error cause => (.error (.refused id cause), shell) := by
  have ran := SurfaceM.runOn_of_careful surface careful
  cases done : surface.answer act with
  | ok result =>
    rw [done] at ran
    simp [onSurface, runOn_lookUp present, ran]
  | error cause =>
    rw [done] at ran
    simp [onSurface, runOn_lookUp present, ran, Shell.putSurface_self present]

/-- The same for an operation without an answer of its own. -/
theorem runOn_obey (present : shell.surfaces.get? id = some surface) {act : SurfaceM Unit}
    (careful : act.Careful) :
    (onSurface id act).runOn shell =
      match surface.obey act with
      | .ok after => (.ok (), shell.putSurface id after)
      | .error cause => (.error (.refused id cause), shell) := by
  rw [runOn_onSurface present careful, Surface.obey]
  cases surface.answer act <;> rfl

/-- A surface is entered before it gets its role. If it cannot get one, it was there before, and then
entering it was nothing. -/
theorem runOn_arrive (shell : Shell) (id : SurfaceId) (role : Role) (next : ShellM Unit) :
    Attempt.runOn (do enter id; onSurface id (.assignRole role); next) shell =
      match (shell.surfaceOrNew id).assignRole role with
      | .ok surface => next.runOn (shell.putSurface id surface)
      | .error cause => (.error (.refused id cause), shell) := by
  have careful := SurfaceM.assignRole_careful role
  have entered : (enter id).runOn shell =
      (.ok (), if shell.surfaces.contains id then shell else shell.putSurface id {}) := rfl
  rw [Attempt.runOn_bind, entered, Shell.surfaceOrNew, Table.contains]
  cases found : shell.surfaces.get? id with
  | some surface =>
    simp only [Option.isSome_some, if_true, Attempt.runOn_bind, runOn_obey found careful, Option.getD_some,
      Surface.assignRole]
    cases surface.obey (.assignRole role) <;> rfl
  | none =>
    have assigned : ({} : Surface).assignRole role = .ok { role } := by
      rw [Surface.assignRole_eq, if_pos rfl]
    have obeyed : ({} : Surface).obey (.assignRole role) = .ok { role } := assigned
    simp only [Option.isSome_none, Bool.false_eq_true, if_false, Attempt.runOn_bind,
      runOn_obey (shell.get?_putSurface id {}) careful, obeyed, Option.getD_none, assigned,
      Shell.putSurface_putSurface]

theorem runOn_destroy_of_absent (absent : shell.surfaces.get? id = none) (depth : Nat) :
    (destroy depth id).runOn shell = (.error (.unknownSurface id), shell) := by
  cases depth with
  | zero => rfl
  | succ depth => simp [destroy, Table.contains, absent]

/-- A surface goes after its popups, unless there is a fault among them. -/
theorem runOn_destroy_succ (present : shell.surfaces.get? id = some surface) (depth : Nat) :
    (destroy (depth + 1) id).runOn shell =
      match Attempt.runOn (forM (shell.children id) (destroy depth)) shell with
      | (.ok _, left) => (.ok (), left.removeSurface id)
      | (.error fault, left) => (.error fault, left) := by
  simp only [destroy, Table.contains, present, Option.isSome_some, if_true, Attempt.runOn_bind,
    Attempt.runOn_get]
  rcases Attempt.runOn (forM (shell.children id) (destroy depth)) shell with ⟨_ | _, _⟩ <;> rfl

/-- Surfaces that are destroyed are removed one after another, and so are those that were destroyed
before a fault. -/
theorem runOn_destroy_removes (depth : Nat) (shell : Shell) (root : SurfaceId) :
    ∃ ids : List SurfaceId,
      ((destroy depth root).runOn shell).2 = ids.foldl Shell.removeSurface shell := by
  induction depth generalizing shell root with
  | zero => exact ⟨[], rfl⟩
  | succ depth ih =>
    have popups : ∀ (children : List SurfaceId) (shell : Shell), ∃ ids : List SurfaceId,
        (Attempt.runOn (forM children (destroy depth)) shell).2 =
          ids.foldl Shell.removeSurface shell := by
      intro children
      induction children with
      | nil => exact fun shell => ⟨[], rfl⟩
      | cons child rest later =>
        intro shell
        obtain ⟨first, gone⟩ := ih shell child
        rw [List.forM_cons, Attempt.runOn_bind]
        rcases ran : (destroy depth child).runOn shell with ⟨_ | _, left⟩
        · exact ⟨first, by rw [← gone, ran]⟩
        · obtain ⟨others, also⟩ := later left
          refine ⟨first ++ others, ?_⟩
          rw [List.foldl_append, ← gone, ran]
          exact also
    obtain ⟨ids, gone⟩ := popups (shell.children root) shell
    cases present : shell.surfaces.get? root with
    | none => exact ⟨[], by rw [runOn_destroy_of_absent present, List.foldl_nil]⟩
    | some surface =>
      rw [runOn_destroy_succ present]
      rcases ran : Attempt.runOn (forM (shell.children root) (destroy depth)) shell with ⟨_ | _, left⟩
      · exact ⟨ids, by rw [← gone, ran]⟩
      · refine ⟨ids ++ [root], ?_⟩
        rw [List.foldl_append, ← gone, ran]
        rfl

end ShellM

namespace Shell

open ShellM

variable {shell : Shell} {id : SurfaceId} {surface after : Surface} {cause : Refusal}

/-! ### Requests -/

theorem changeSurface_of_absent (absent : shell.surfaces.get? id = none) (act : SurfaceM Unit) :
    shell.changeSurface id act = shell.reject (.unknownSurface id) :=
  reply_of_error (runOn_onSurface_of_absent absent act)

theorem changeSurface_of_ok {act : SurfaceM Unit} (careful : act.Careful)
    (present : shell.surfaces.get? id = some surface) (done : surface.obey act = .ok after) :
    shell.changeSurface id act = (shell.putSurface id after).accept :=
  reply_of_ok ((runOn_obey present careful).trans (by rw [done]))

theorem changeSurface_of_error {act : SurfaceM Unit} (careful : act.Careful)
    (present : shell.surfaces.get? id = some surface) (refused : surface.obey act = .error cause) :
    shell.changeSurface id act = shell.reject (.refused id cause) :=
  reply_of_error ((runOn_obey present careful).trans (by rw [refused]))

theorem forward_of_absent (absent : shell.surfaces.get? id = none) (signal : Signal) :
    shell.forward id signal = shell.reject (.unknownSurface id) :=
  reply_of_error (by simp [runOn_lookUp_of_absent absent])

/-- A wish for a window is passed on, and a wish for anything else is not. -/
theorem forward_of_present (present : shell.surfaces.get? id = some surface) (signal : Signal) :
    shell.forward id signal =
      if surface.isToplevel then (shell.emit id signal).accept
      else shell.reject (.refused id .notToplevel) := by
  split
  · next window => exact reply_of_ok (by simp [runOn_lookUp present, window])
  · next other => exact reply_of_error (by simp [runOn_lookUp present, other])

theorem newToplevel_eq (shell : Shell) (id : SurfaceId) :
    shell.newToplevel id =
      match (shell.surfaceOrNew id).assignRole (.toplevel {}) with
      | .error cause => shell.reject (.refused id cause)
      | .ok surface => (((shell.putSurface id surface).ping id).createView id).accept := by
  have ran := runOn_arrive shell id (.toplevel {}) (modify fun shell => (shell.ping id).createView id)
  cases assigned : (shell.surfaceOrNew id).assignRole (.toplevel {}) with
  | error cause => exact reply_of_error (ran.trans (by rw [assigned]))
  | ok surface => exact reply_of_ok (ran.trans (by rw [assigned]; rfl))

theorem newPopup_eq (shell : Shell) (id parent : SurfaceId) (geometry : Rectangle) :
    shell.newPopup id parent geometry =
      if parent = id ∨ !shell.surfaces.contains parent then shell.reject (.unknownParent id parent)
      else
        match (shell.surfaceOrNew id).assignRole (.popup parent geometry) with
        | .error cause => shell.reject (.refused id cause)
        | .ok surface => ((shell.putSurface id surface).emit parent (.newPopup id)).accept := by
  have ran := runOn_arrive shell id (.popup parent geometry)
    (modify fun shell => shell.emit parent (.newPopup id))
  by_cases orphan : parent = id ∨ !shell.surfaces.contains parent
  · rw [if_pos orphan]
    apply reply_of_error
    simp only [Attempt.runOn_bind, Attempt.runOn_get, if_pos orphan, Attempt.runOn_throw]
  · rw [if_neg orphan]
    have started : ∀ next : ShellM Unit, Attempt.runOn (do
        if parent = id ∨ !(← get).surfaces.contains parent then throw (.unknownParent id parent)
        next) shell = next.runOn shell := fun next => by
      simp only [Attempt.runOn_bind, Attempt.runOn_get, if_neg orphan]
    cases assigned : (shell.surfaceOrNew id).assignRole (.popup parent geometry) with
    | error cause => exact reply_of_error ((started _).trans (ran.trans (by rw [assigned])))
    | ok surface => exact reply_of_ok ((started _).trans (ran.trans (by rw [assigned]; rfl)))

/-- What is due after a commit is sent for the surface as the commit left it. -/
theorem committed_putSurface (shell : Shell) (id : SurfaceId) (surface : Surface) (effect : CommitEffect) :
    (shell.putSurface id surface).committed id effect =
      (shell.followed id surface effect).emit id .commit := by
  cases effect with
  | settled | mapped | unmapped => rfl
  | needsConfigure =>
    simp only [committed, get?_putSurface, followed]
    rw [configure_putSurface]

theorem commit_of_absent (absent : shell.surfaces.get? id = none) (commit : Commit) :
    shell.commit id commit = shell.reject (.unknownSurface id) :=
  reply_of_error (by simp [runOn_onSurface_of_absent absent])

theorem commit_of_error {commit : Commit} (present : shell.surfaces.get? id = some surface)
    (refused : surface.commit commit = .error cause) :
    shell.commit id commit = shell.reject (.refused id cause) := by
  have ran := runOn_onSurface present (SurfaceM.commit_careful commit)
  rw [← Surface.commit, refused] at ran
  exact reply_of_error (by simp [ran])

theorem commit_of_ok {commit : Commit} {effect : CommitEffect}
    (present : shell.surfaces.get? id = some surface)
    (done : surface.commit commit = .ok (after, effect)) :
    shell.commit id commit = ((shell.followed id after effect).emit id .commit).accept := by
  have ran := runOn_onSurface present (SurfaceM.commit_careful commit)
  rw [← Surface.commit, done] at ran
  exact reply_of_ok (by simp [ran, committed_putSurface])

/-! ### Rejected or carried out -/

/-- Where every surface has a role, only a new surface is given one. -/
theorem assignRole_of_roled (roled : shell.Roled) (id : SurfaceId) (role : Role) :
    (shell.surfaceOrNew id).assignRole role =
      match shell.surfaces.get? id with
      | none => .ok { role }
      | some _ => .error .roleAlreadyAssigned := by
  rw [surfaceOrNew, Surface.assignRole_eq]
  cases found : shell.surfaces.get? id with
  | none => exact if_pos rfl
  | some old => exact if_neg (roled id old found)

theorem newToplevel_cases (roled : shell.Roled) (id : SurfaceId) :
    (∃ fault, shell.newToplevel id = shell.reject fault) ∨
      shell.surfaces.get? id = none ∧
        shell.newToplevel id =
          (((shell.putSurface id { role := .toplevel {} }).ping id).createView id).accept := by
  rw [newToplevel_eq, assignRole_of_roled roled]
  cases found : shell.surfaces.get? id with
  | some old => exact .inl ⟨_, rfl⟩
  | none => exact .inr ⟨rfl, rfl⟩

theorem newPopup_cases (roled : shell.Roled) (id parent : SurfaceId) (geometry : Rectangle) :
    (∃ fault, shell.newPopup id parent geometry = shell.reject fault) ∨
      shell.surfaces.get? id = none ∧
        shell.newPopup id parent geometry =
          ((shell.putSurface id { role := .popup parent geometry }).emit parent
            (.newPopup id)).accept := by
  rw [newPopup_eq, assignRole_of_roled roled]
  by_cases orphan : parent = id ∨ !shell.surfaces.contains parent
  · exact .inl ⟨_, if_pos orphan⟩
  rw [if_neg orphan]
  cases found : shell.surfaces.get? id with
  | some old => exact .inl ⟨_, rfl⟩
  | none => exact .inr ⟨rfl, rfl⟩

theorem changeSurface_cases (shell : Shell) (id : SurfaceId) {act : SurfaceM Unit}
    (careful : act.Careful) :
    (∃ fault, shell.changeSurface id act = shell.reject fault) ∨
      ∃ before after, shell.surfaces.get? id = some before ∧ before.obey act = .ok after ∧
        shell.changeSurface id act = (shell.putSurface id after).accept := by
  cases present : shell.surfaces.get? id with
  | none => exact .inl ⟨_, changeSurface_of_absent present act⟩
  | some before =>
    cases done : before.obey act with
    | error cause => exact .inl ⟨_, changeSurface_of_error careful present done⟩
    | ok after => exact .inr ⟨before, after, rfl, done, changeSurface_of_ok careful present done⟩

/-- Whatever is asked of a surface, it changes nothing but what is stored of the surface. -/
theorem changeSurface_stores (shell : Shell) (id : SurfaceId) (act : SurfaceM Unit) :
    (shell.changeSurface id act).shell = shell ∨
      ∃ after, (shell.changeSurface id act).shell = shell.putSurface id after := by
  rw [changeSurface, reply_shell]
  cases present : shell.surfaces.get? id with
  | none => exact .inl (by rw [runOn_onSurface_of_absent present])
  | some surface =>
    refine .inr ⟨(act.runOn surface).2, ?_⟩
    rcases ran : act.runOn surface with ⟨_ | _, left⟩ <;> simp [onSurface, runOn_lookUp present, ran]

theorem forward_cases (shell : Shell) (id : SurfaceId) (signal : Signal) :
    (∃ fault, shell.forward id signal = shell.reject fault) ∨
      shell.forward id signal = (shell.emit id signal).accept := by
  cases present : shell.surfaces.get? id with
  | none => exact .inl ⟨_, forward_of_absent present signal⟩
  | some surface =>
    rw [forward_of_present present]
    split
    · exact .inr rfl
    · exact .inl ⟨_, rfl⟩

theorem commit_cases (shell : Shell) (id : SurfaceId) (commit : Commit) :
    (∃ fault, shell.commit id commit = shell.reject fault) ∨
      ∃ before after effect, shell.surfaces.get? id = some before ∧
        before.commit commit = .ok (after, effect) ∧
        shell.commit id commit = ((shell.followed id after effect).emit id .commit).accept := by
  cases present : shell.surfaces.get? id with
  | none => exact .inl ⟨_, commit_of_absent present commit⟩
  | some before =>
    cases done : before.commit commit with
    | error cause => exact .inl ⟨_, commit_of_error present done⟩
    | ok result => exact .inr ⟨before, result.1, result.2, rfl, done, commit_of_ok present done⟩

/-- Whatever a request to destroy a surface comes to, surfaces are removed one after another. -/
theorem destroy_removes (shell : Shell) (root : SurfaceId) :
    ∃ ids : List SurfaceId, (shell.destroy root).shell = ids.foldl removeSurface shell := by
  obtain ⟨ids, left⟩ := ShellM.runOn_destroy_removes shell.surfaces.size shell root
  refine ⟨ids, ?_⟩
  rw [destroy, reply_shell, left]

/-! ### Calls -/

/-- **How a call on a view is carried out.** -/
inductive Carried (shell : Shell) (id : ViewId) : WindowCall → Shell → Prop
  | forget : Carried shell id .destroy (shell.forgetView id)
  | miss {call : WindowCall} (absent : shell.window? id = none) (keeps : call ≠ .destroy) :
      Carried shell id call shell
  | close {view : View} {surface : Surface} {toplevel : Toplevel}
      (window : shell.window? id = some (view, surface, toplevel)) :
      Carried shell id .close (shell.closeWindow view surface)
  | propose {call : WindowCall} {view : View} {surface : Surface} {toplevel : Toplevel}
      {change : ToplevelState → ToplevelState}
      (window : shell.window? id = some (view, surface, toplevel))
      (asked : call.change? toplevel.bounds = some change)
      (stays : ∀ position size, call ≠ .moveResize position size) :
      Carried shell id call (shell.propose view surface change).1
  | moveResize {view : View} {surface : Surface} {toplevel : Toplevel} (position : Point)
      (size : Extent) (window : shell.window? id = some (view, surface, toplevel)) :
      Carried shell id (.moveResize position size)
        (shell.moveResize id view surface toplevel.bounds position size)

theorem call_carried (shell : Shell) (id : ViewId) (call : WindowCall) :
    Carried shell id call (shell.call id call) := by
  cases window : shell.window? id with
  | none =>
    cases call with
    | destroy => exact .forget
    | _ =>
      simp only [Shell.call, onWindow, window]
      exact .miss window (by simp)
  | some found =>
    obtain ⟨view, surface, toplevel⟩ := found
    cases call with
    | destroy => exact .forget
    | close =>
      simp only [Shell.call, onWindow, window]
      exact .close window
    | moveResize position size =>
      simp only [Shell.call, onWindow, window]
      exact .moveResize position size window
    | _ =>
      simp only [Shell.call, onWindow, window]
      exact .propose window rfl (by simp)

/-! ### Configures -/

/-- Storing a surface with the configure that is due, if one is. -/
theorem configure_cases (shell : Shell) (id : SurfaceId) (surface : Surface) (force : Bool) :
    surface.schedule shell.serials force = none ∧
        shell.configure id surface force = (shell.putSurface id surface, none) ∨
      ∃ configure after serials,
        surface.schedule shell.serials force = some (configure, after, serials) ∧
          shell.configure id surface force =
            (({ shell.putSurface id after with serials } : Shell).send [.configure id configure],
              some configure.serial) := by
  unfold configure
  cases due : surface.schedule shell.serials force with
  | none => exact .inl ⟨rfl, rfl⟩
  | some found => exact .inr ⟨found.1, found.2.1, found.2.2, rfl, rfl⟩

end Shell

end WindowShell
