/-
**What a run carried out.**

Rejected acts leave no trace, so the history of a shell is made of the acts that were carried out. For
one surface the part that counts began when it was created, and a number may be used for one surface
after another. What the client acknowledged there is read off the history, and so is what it committed:
the last acknowledgement that came before the last commit.

* `carriedOut`, `acksOf`, `settledAck?`: the history of a run, and what is read off it;
* `Lifetime`, `Lifetime.arising`, `Lifetime.induction`: the part of a run in which a surface is there;
* `Attends`, `perform_attends`: what an act does to the surface it is about, if it is carried out.
-/

import WindowShell.Proofs.Rejection
import WindowShell.Proofs.Rounds

namespace WindowShell

namespace Act

/-- The serial that an act acknowledges for a surface. -/
def ackOf? (id : SurfaceId) : Act → Option UInt32
  | .request (.ack surface raw) => if surface = id then some raw else none
  | _ => none

/-- Whether an act is a commit of a surface. -/
def isCommitOf (id : SurfaceId) : Act → Bool
  | .request (.commit surface _) => surface = id
  | _ => false

theorem ackOf?_eq_some_iff {id : SurfaceId} {act : Act} {raw : UInt32} :
    act.ackOf? id = some raw ↔ act = .request (.ack id raw) := by
  unfold ackOf?
  split
  · simp [and_comm]
  · next other =>
    simp only [reduceCtorEq, false_iff]
    exact other id raw

theorem isCommitOf_iff {id : SurfaceId} {act : Act} :
    act.isCommitOf id ↔ ∃ commit, act = .request (.commit id commit) := by
  unfold isCommitOf
  split
  · simp
  · next other =>
    simp only [Bool.false_eq_true, false_iff, not_exists]
    exact other id

/-- A commit acknowledges nothing. -/
theorem ackOf?_of_commit {id : SurfaceId} {act : Act} (commits : act.isCommitOf id) :
    act.ackOf? id = none := by
  obtain ⟨commit, rfl⟩ := isCommitOf_iff.mp commits
  rfl

end Act

namespace Shell

/-! ### Acts that are carried out -/

/-- The acts of a run that are carried out, in order. -/
def carriedOut (shell : Shell) : List Act → List Act
  | [] => []
  | act :: acts =>
    match (shell.perform act).fault with
    | none => act :: (shell.perform act).shell.carriedOut acts
    | some _ => (shell.perform act).shell.carriedOut acts

/-- The serials that a run acknowledges for a surface, in order. -/
def acksOf (shell : Shell) (id : SurfaceId) (acts : List Act) : List UInt32 :=
  (shell.carriedOut acts).filterMap (Act.ackOf? id)

/-- The last serial that a run acknowledges for a surface before it last commits the surface. -/
def settledAck? (shell : Shell) (id : SurfaceId) (acts : List Act) : Option UInt32 :=
  ((shell.carriedOut acts).reverse.dropWhile fun act => !act.isCommitOf id).findSome? (Act.ackOf? id)

section History

variable {shell : Shell} {id : SurfaceId} {acts : List Act} {act : Act}

theorem carriedOut_append (shell : Shell) (acts more : List Act) :
    shell.carriedOut (acts ++ more) =
      shell.carriedOut acts ++ (shell.performAll acts).carriedOut more := by
  induction acts generalizing shell with
  | nil => rfl
  | cons act acts ih =>
    rw [List.cons_append, carriedOut, carriedOut, ih, performAll_cons]
    cases (shell.perform act).fault <;> rfl

theorem carriedOut_of_accepted (accepted : (shell.perform act).fault = none) :
    shell.carriedOut [act] = [act] := by
  rw [carriedOut, accepted]
  rfl

theorem carriedOut_of_rejected (rejected : (shell.perform act).fault ≠ none) :
    shell.carriedOut [act] = [] := by
  obtain ⟨fault, same⟩ := Option.ne_none_iff_exists'.mp rejected
  rw [carriedOut, same]
  rfl

theorem acksOf_append (shell : Shell) (id : SurfaceId) (acts more : List Act) :
    shell.acksOf id (acts ++ more) =
      shell.acksOf id acts ++ (shell.performAll acts).acksOf id more := by
  rw [acksOf, carriedOut_append, List.filterMap_append, acksOf, acksOf]

theorem acksOf_of_accepted (accepted : (shell.perform act).fault = none) :
    shell.acksOf id [act] = (act.ackOf? id).toList := by
  rw [acksOf, carriedOut_of_accepted accepted]
  cases named : act.ackOf? id <;> simp [named]

theorem acksOf_of_rejected (rejected : (shell.perform act).fault ≠ none) :
    shell.acksOf id [act] = [] := by
  rw [acksOf, carriedOut_of_rejected rejected, List.filterMap_nil]

/-- An act that names no serial acknowledges nothing, carried out or not. -/
theorem acksOf_of_unnamed (unnamed : act.ackOf? id = none) : shell.acksOf id [act] = [] := by
  by_cases accepted : (shell.perform act).fault = none
  · rw [acksOf_of_accepted accepted, unnamed, Option.toList_none]
  · exact acksOf_of_rejected accepted

/-- A commit settles what was acknowledged last. -/
theorem settledAck?_of_commit (accepted : ((shell.performAll acts).perform act).fault = none)
    (commits : act.isCommitOf id) :
    shell.settledAck? id (acts ++ [act]) = (shell.acksOf id acts).getLast? := by
  rw [settledAck?, carriedOut_append, carriedOut_of_accepted accepted, List.reverse_append,
    List.reverse_singleton, List.singleton_append, List.dropWhile_cons_of_neg (by simp [commits]),
    List.findSome?_cons, Act.ackOf?_of_commit commits, acksOf, List.getLast?_filterMap]

theorem settledAck?_of_other (other : act.isCommitOf id = false) :
    shell.settledAck? id (acts ++ [act]) = shell.settledAck? id acts := by
  rw [settledAck?, carriedOut_append]
  by_cases accepted : ((shell.performAll acts).perform act).fault = none
  · rw [carriedOut_of_accepted accepted, List.reverse_append, List.reverse_singleton,
      List.singleton_append, List.dropWhile_cons_of_pos (by simp [other]), settledAck?]
  · rw [carriedOut_of_rejected accepted, List.append_nil, settledAck?]

theorem settledAck?_of_rejected (rejected : ((shell.performAll acts).perform act).fault ≠ none) :
    shell.settledAck? id (acts ++ [act]) = shell.settledAck? id acts := by
  rw [settledAck?, carriedOut_append, carriedOut_of_rejected rejected, List.append_nil, settledAck?]

/-- A rejected act leaves the shell as it was, where parents arrived before their children. -/
theorem perform_rejected (sorted : Lineage.ParentsFirst shell.lineage)
    (rejected : (shell.perform act).fault ≠ none) : (shell.perform act).shell = shell := by
  cases act with
  | request request => exact handle_traceless sorted request rejected
  | call => exact absurd rfl rejected

/-- Whatever hangs on what, a rejected act changes no surface that is still there. -/
theorem kept_of_rejected {surface : Surface} (rejected : (shell.perform act).fault ≠ none)
    (found : (shell.perform act).shell.surfaces.get? id = some surface) :
    shell.surfaces.get? id = some surface := by
  cases act with
  | call => exact absurd rfl rejected
  | request request =>
    by_cases destroys : ∃ root, request = .destroy root
    · obtain ⟨root, rfl⟩ := destroys
      obtain ⟨ids, removed⟩ := destroy_removes shell root
      rw [perform, handle, removed, removeAll_get?] at found
      split at found
      · cases found
      · exact found
    · have same := shell.handle_traceless_of_other (fun root same => destroys ⟨root, same⟩) rejected
      rwa [perform, same] at found

end History

/-! ### The lifetime of a surface -/

/-- An act creates a surface. -/
def Creates (shell : Shell) (id : SurfaceId) (act : Act) : Prop :=
  shell.surfaces.get? id = none ∧ ((shell.perform act).shell.surfaces.get? id).isSome

/-- A surface is there all along a run. -/
def Lasts (shell : Shell) (id : SurfaceId) : List Act → Prop
  | [] => (shell.surfaces.get? id).isSome
  | act :: acts => (shell.surfaces.get? id).isSome ∧ (shell.perform act).shell.Lasts id acts

/-- **The lifetime of a surface** at the end of a run: what came after the act that created it. -/
structure Lifetime (start : Shell) (id : SurfaceId) (acts front life : List Act) : Prop where
  split : acts = front ++ life
  created : ∃ earlier creating, front = earlier ++ [creating] ∧
    (start.performAll earlier).Creates id creating
  lasts : (start.performAll front).Lasts id life

section Lives

variable {start shell : Shell} {id : SurfaceId} {acts front life : List Act} {act : Act}
  {surface after : Surface}

theorem lasts_snoc : shell.Lasts id (acts ++ [act]) ↔
    shell.Lasts id acts ∧ ((shell.performAll (acts ++ [act])).surfaces.get? id).isSome := by
  induction acts generalizing shell with
  | nil => simp [Lasts]
  | cons first acts ih => rw [List.cons_append, Lasts, Lasts, ih, performAll_cons, and_assoc]

theorem Lasts.present (lasts : shell.Lasts id acts) :
    ∃ surface, (shell.performAll acts).surfaces.get? id = some surface := by
  induction acts generalizing shell with
  | nil => exact Option.isSome_iff_exists.mp lasts
  | cons act acts ih => exact ih lasts.2

/-- **Every surface has a lifetime**, if it was not there at the start. -/
theorem lifetime_exists (absent : start.surfaces.get? id = none) (acts : List Act)
    (found : (start.performAll acts).surfaces.get? id = some surface) :
    ∃ front life, Lifetime start id acts front life := by
  induction acts using List.reverseRecOn generalizing surface with
  | nil =>
    rw [performAll_nil, absent] at found
    cases found
  | append_singleton acts act ih =>
    have there : ((start.performAll (acts ++ [act])).surfaces.get? id).isSome :=
      Option.isSome_iff_exists.mpr ⟨surface, found⟩
    cases present : (start.performAll acts).surfaces.get? id with
    | none =>
      rw [performAll_append] at there
      exact ⟨acts ++ [act], [], (List.append_nil _).symm, ⟨acts, act, rfl, present, there⟩,
        by rwa [performAll_append]⟩
    | some before =>
      obtain ⟨front, life, rfl, created, lasts⟩ := ih present
      refine ⟨front, life ++ [act], List.append_assoc _ _ _, created, lasts_snoc.mpr ⟨lasts, ?_⟩⟩
      rwa [← performAll_append, ← List.append_assoc]

/-- **How a surface arises**: the act that creates it gives it a role of its own. -/
inductive Arises (id : SurfaceId) : Act → Role → Prop
  | window : Arises id (.request (.newToplevel id)) (.toplevel {})
  | popup (parent : SurfaceId) (geometry : Rectangle) :
      Arises id (.request (.newPopup id parent geometry)) (.popup parent geometry)

theorem Creates.arises (creates : shell.Creates id act) (roled : shell.Roled)
    (found : (shell.perform act).shell.surfaces.get? id = some after) :
    ∃ role, Arises id act role ∧ after = { role } := by
  obtain ⟨sent, -, turn⟩ := perform_turn roled act id
  rw [creates.1, found] at turn
  cases turn with
  | window => exact ⟨_, .window, rfl⟩
  | popup parent geometry => exact ⟨_, .popup parent geometry, rfl⟩

/-- A surface is created with a role and nothing else. -/
theorem Creates.new (creates : shell.Creates id act) (roled : shell.Roled)
    (found : (shell.perform act).shell.surfaces.get? id = some after) : ∃ role, after = { role } :=
  (creates.arises roled found).imp fun _ => And.right

/-- **What holds of a surface since it arose**: it holds when the act that creates the surface gives it its
role, and every act keeps it. -/
theorem Lifetime.arising {motive : List Act → Surface → Prop}
    (current : Lifetime start id acts front life) (roled : start.Roled)
    (found : (start.performAll acts).surfaces.get? id = some surface)
    (arises : ∀ earlier creating role, front = earlier ++ [creating] → Arises id creating role →
      motive [] { role })
    (continues : ∀ life act surface after,
      ((start.performAll front).performAll life).Roled →
      ((start.performAll front).performAll life).surfaces.get? id = some surface →
      (((start.performAll front).performAll life).perform act).shell.surfaces.get? id = some after →
      motive life surface → motive (life ++ [act]) after) :
    motive life surface := by
  obtain ⟨rfl, ⟨earlier, creating, rfl, creates⟩, lasts⟩ := current
  rw [performAll_append start] at found
  generalize settled : start.performAll (earlier ++ [creating]) = created at found lasts continues
  have createdRoled : created.Roled := settled ▸ performAll_roled roled _
  induction life using List.reverseRecOn generalizing surface with
  | nil =>
    rw [performAll_append] at settled
    subst settled
    obtain ⟨role, arose, rfl⟩ := creates.arises (performAll_roled roled earlier) found
    exact arises earlier creating role rfl arose
  | append_singleton life act ih =>
    obtain ⟨lasts, -⟩ := lasts_snoc.mp lasts
    obtain ⟨before, present⟩ := lasts.present
    rw [performAll_append] at found
    exact continues life act before surface (performAll_roled createdRoled life) present found
      (ih present lasts)

/-- **What holds of a surface along its lifetime**: it holds of a new surface, and every act keeps it. -/
theorem Lifetime.induction {motive : List Act → Surface → Prop}
    (current : Lifetime start id acts front life) (roled : start.Roled)
    (found : (start.performAll acts).surfaces.get? id = some surface)
    (new : ∀ role : Role, motive [] { role })
    (continues : ∀ life act surface after,
      ((start.performAll front).performAll life).Roled →
      ((start.performAll front).performAll life).surfaces.get? id = some surface →
      (((start.performAll front).performAll life).perform act).shell.surfaces.get? id = some after →
      motive life surface → motive (life ++ [act]) after) :
    motive life surface :=
  current.arising roled found (fun _ _ role _ _ => new role) continues

end Lives

/-! ### What a surface makes of an act -/

/-- **How a surface attends to an act**: the act is rejected, it acknowledges or commits the surface, or
it is about something else and leaves alone what was acknowledged and committed. -/
inductive Attends (shell : Shell) (id : SurfaceId) : Act → Surface → Surface → Prop
  | rejected {act : Act} (surface : Surface) (rejected : (shell.perform act).fault ≠ none) :
      Attends shell id act surface surface
  | ack {surface after : Surface} (raw : UInt32)
      (accepted : (shell.perform (.request (.ack id raw))).fault = none)
      (done : surface.ack raw = .ok after) : Attends shell id (.request (.ack id raw)) surface after
  | commit {surface latched after : Surface} {effect : CommitEffect} (commit : Commit)
      (accepted : (shell.perform (.request (.commit id commit))).fault = none)
      (done : surface.commit commit = .ok (latched, effect))
      (acked : after.acked = latched.acked)
      (configureSerial : after.configureSerial = latched.configureSerial) :
      Attends shell id (.request (.commit id commit)) surface after
  | aside {act : Act} {surface after : Surface} (unnamed : act.ackOf? id = none)
      (other : act.isCommitOf id = false) (acked : after.acked = surface.acked)
      (configureSerial : after.configureSerial = surface.configureSerial) :
      Attends shell id act surface after

section Attending

variable {shell : Shell} {id : SurfaceId} {act : Act} {surface after : Surface}

theorem ack_accepted {raw : UInt32}
    (accepted : (shell.perform (.request (.ack id raw))).fault = none) :
    ∃ surface, shell.surfaces.get? id = some surface ∧ ∃ after, surface.ack raw = .ok after := by
  cases present : shell.surfaces.get? id with
  | none =>
    rw [perform, handle, changeSurface_of_absent present] at accepted
    cases accepted
  | some surface => exact ⟨surface, rfl, (ack_fault present raw).mp accepted⟩

/-- **Every surface attends to every act.** -/
theorem perform_attends (roled : shell.Roled) (present : shell.surfaces.get? id = some surface)
    (found : (shell.perform act).shell.surfaces.get? id = some after) :
    shell.Attends id act surface after := by
  by_cases accepted : (shell.perform act).fault = none
  swap
  · obtain rfl := Option.some.inj (present.symm.trans (kept_of_rejected accepted found))
    exact .rejected surface accepted
  by_cases named : ∃ raw, act = .request (.ack id raw)
  · obtain ⟨raw, rfl⟩ := named
    obtain ⟨acked, done⟩ := (ack_fault present raw).mp accepted
    rw [ack_of_ok present done, accept, putSurface_surface] at found
    obtain rfl := Option.some.inj found
    exact .ack raw accepted done
  by_cases commits : ∃ commit, act = .request (.commit id commit)
  · obtain ⟨commit, rfl⟩ := commits
    obtain ⟨latched, effect, done⟩ := commit_of_accepted present accepted
    obtain ⟨inflight, stored⟩ := commit_stored present done
    obtain rfl := Option.some.inj (stored.symm.trans found)
    exact .commit commit accepted done rfl rfl
  have unnamed : act.ackOf? id = none := Option.eq_none_iff_forall_ne_some.mpr fun raw same =>
    named ⟨raw, Act.ackOf?_eq_some_iff.mp same⟩
  have other : act.isCommitOf id = false := by
    rw [← Bool.not_eq_true]
    exact mt Act.isCommitOf_iff.mp commits
  -- what is left neither acknowledges nor commits the surface
  obtain ⟨sent, -, turn⟩ := perform_turn roled act id
  rw [present, found] at turn
  cases turn with
  | rest => exact .aside unnamed other rfl rfl
  | declareMin size done | declareMax size done =>
    rw [Surface.changeToplevel_ok done]
    exact .aside unnamed other rfl rfl
  | ack raw => exact absurd ⟨raw, rfl⟩ named
  | commit commit => exact absurd ⟨commit, rfl⟩ commits
  | invite commit => exact absurd ⟨commit, rfl⟩ commits
  | agree => exact .aside unnamed other rfl rfl
  | propose asked due =>
    obtain ⟨-, -, rfl, -⟩ := Surface.schedule_some due
    exact .aside unnamed other rfl rfl

end Attending

end Shell

end WindowShell
