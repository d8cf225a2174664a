/-
**What the client has committed of a window.**

A client declares size bounds and acknowledges configures, and none of it counts before the client
commits. Three values of a window wait in three places of their own: the least and the greatest size
it declared last, and the configure it acknowledged last. A commit that succeeds puts all three in place
together, and nothing else does. So what a window holds can be read off its history, in which rejected
acts do not appear:

* `newest?`, `latched?`: the last value that a run names, and the last one before its last commit;
* `Stages`: a value that waits for the next commit, and how an act that names it, commits it or leaves it
  alone goes on with it;
* `perform_buffers`: what an act does to the three values of a surface;
* `Lifetime.latches`: the three values along the lifetime of a window;
* `window_holds_its_history`: what a window holds is what was named last before its last commit.
-/

import WindowShell.Proofs.Repetition
import WindowShell.Proofs.Wire

namespace WindowShell

/-! ### What an act names -/

namespace Act

/-- The least size that an act declares for a surface. -/
def leastOf? (id : SurfaceId) : Act → Option Extent
  | .request (.setMinSize surface size) => if surface = id then some size else none
  | _ => none

/-- The greatest size that an act declares for a surface. -/
def greatestOf? (id : SurfaceId) : Act → Option Extent
  | .request (.setMaxSize surface size) => if surface = id then some size else none
  | _ => none

variable {id : SurfaceId} {act : Act} {size : Extent}

theorem leastOf?_eq_some_iff : act.leastOf? id = some size ↔ act = .request (.setMinSize id size) := by
  unfold leastOf?
  split
  · simp [and_comm]
  · next other =>
    simp only [reduceCtorEq, false_iff]
    exact other id size

theorem greatestOf?_eq_some_iff :
    act.greatestOf? id = some size ↔ act = .request (.setMaxSize id size) := by
  unfold greatestOf?
  split
  · simp [and_comm]
  · next other =>
    simp only [reduceCtorEq, false_iff]
    exact other id size

end Act

namespace Shell

/-! ### The last value that a run names -/

/-- The acts of a run that are carried out, in order, each with the shell it is carried out in. -/
def history (shell : Shell) : List Act → List (Shell × Act)
  | [] => []
  | act :: acts =>
    match (shell.perform act).fault with
    | none => (shell, act) :: (shell.perform act).shell.history acts
    | some _ => (shell.perform act).shell.history acts

/-- The last value that an act of a run names, among the acts that are carried out. -/
def newest? {α : Type} (shell : Shell) (named? : Shell → Act → Option α) (acts : List Act) : Option α :=
  (shell.history acts).reverse.findSome? fun moment => named? moment.1 moment.2

/-- The last value that a run names before it last commits a surface. -/
def latched? {α : Type} (shell : Shell) (id : SurfaceId) (named? : Shell → Act → Option α)
    (acts : List Act) : Option α :=
  ((shell.history acts).reverse.dropWhile fun moment => !moment.2.isCommitOf id).findSome?
    fun moment => named? moment.1 moment.2

section History

variable {α : Type} {shell : Shell} {id : SurfaceId} {named? : Shell → Act → Option α}
  {acts : List Act} {act : Act} {value default : α}

theorem history_append (shell : Shell) (acts more : List Act) :
    shell.history (acts ++ more) = shell.history acts ++ (shell.performAll acts).history more := by
  induction acts generalizing shell with
  | nil => rfl
  | cons act acts ih =>
    rw [List.cons_append, history, history, ih, performAll_cons]
    cases (shell.perform act).fault <;> rfl

theorem history_of_accepted (accepted : (shell.perform act).fault = none) :
    shell.history [act] = [(shell, act)] := by
  rw [history, accepted]
  rfl

theorem history_of_rejected (rejected : (shell.perform act).fault ≠ none) :
    shell.history [act] = [] := by
  obtain ⟨fault, same⟩ := Option.ne_none_iff_exists'.mp rejected
  rw [history, same]
  rfl

theorem newest?_of_accepted (accepted : ((shell.performAll acts).perform act).fault = none) :
    shell.newest? named? (acts ++ [act]) =
      (named? (shell.performAll acts) act).or (shell.newest? named? acts) := by
  rw [newest?, history_append, history_of_accepted accepted, List.reverse_append,
    List.reverse_singleton, List.singleton_append, List.findSome?_cons, newest?]
  cases named? (shell.performAll acts) act <;> rfl

theorem newest?_of_rejected (rejected : ((shell.performAll acts).perform act).fault ≠ none) :
    shell.newest? named? (acts ++ [act]) = shell.newest? named? acts := by
  rw [newest?, history_append, history_of_rejected rejected, List.append_nil, newest?]

theorem newest?_of_unnamed (unnamed : named? (shell.performAll acts) act = none) :
    shell.newest? named? (acts ++ [act]) = shell.newest? named? acts := by
  by_cases accepted : ((shell.performAll acts).perform act).fault = none
  · rw [newest?_of_accepted accepted, unnamed, Option.none_or]
  · exact newest?_of_rejected accepted

/-- A commit latches what was named last. -/
theorem latched?_of_commit (accepted : ((shell.performAll acts).perform act).fault = none)
    (commits : act.isCommitOf id) (unnamed : named? (shell.performAll acts) act = none) :
    shell.latched? id named? (acts ++ [act]) = shell.newest? named? acts := by
  rw [latched?, history_append, history_of_accepted accepted, List.reverse_append,
    List.reverse_singleton, List.singleton_append, List.dropWhile_cons_of_neg (by simp [commits]),
    List.findSome?_cons, unnamed, newest?]

theorem latched?_of_other (other : act.isCommitOf id = false) :
    shell.latched? id named? (acts ++ [act]) = shell.latched? id named? acts := by
  rw [latched?, history_append]
  by_cases accepted : ((shell.performAll acts).perform act).fault = none
  · rw [history_of_accepted accepted, List.reverse_append, List.reverse_singleton,
      List.singleton_append, List.dropWhile_cons_of_pos (by simp [other]), latched?]
  · rw [history_of_rejected accepted, List.append_nil, latched?]

theorem latched?_of_rejected (rejected : ((shell.performAll acts).perform act).fault ≠ none) :
    shell.latched? id named? (acts ++ [act]) = shell.latched? id named? acts := by
  rw [latched?, history_append, history_of_rejected rejected, List.append_nil, latched?]

end History

/-! ### A value that waits for a commit -/

/-- **A value of a surface that is named first and takes effect on the next commit.** What is in place
was named last before the last commit, and what the next commit would put in place was named last. -/
structure Stages {α : Type} (shell : Shell) (id : SurfaceId) (named? : Shell → Act → Option α)
    (default : α) (acts : List Act) (waiting : Option α) (held : α) : Prop where
  settled : held = (shell.latched? id named? acts).getD default
  next : waiting.getD held = (shell.newest? named? acts).getD default

namespace Stages

variable {α : Type} {shell : Shell} {id : SurfaceId} {named? : Shell → Act → Option α} {default : α}
  {acts : List Act} {act : Act} {waiting : Option α} {held value : α}

/-- Nothing was named yet. -/
theorem new (shell : Shell) (id : SurfaceId) (named? : Shell → Act → Option α) (default : α) :
    shell.Stages id named? default [] none default where
  settled := rfl
  next := rfl

/-- A rejected act changes nothing. -/
theorem rejected (stages : shell.Stages id named? default acts waiting held)
    (rejected : ((shell.performAll acts).perform act).fault ≠ none) :
    shell.Stages id named? default (acts ++ [act]) waiting held where
  settled := by rw [latched?_of_rejected rejected, stages.settled]
  next := by rw [newest?_of_rejected rejected, stages.next]

/-- An act that names no value and commits nothing changes nothing. -/
theorem aside (stages : shell.Stages id named? default acts waiting held)
    (unnamed : named? (shell.performAll acts) act = none) (other : act.isCommitOf id = false) :
    shell.Stages id named? default (acts ++ [act]) waiting held where
  settled := by rw [latched?_of_other other, stages.settled]
  next := by rw [newest?_of_unnamed unnamed, stages.next]

/-- A value that is named waits, and what waited before does not count any more. -/
theorem declare (stages : shell.Stages id named? default acts waiting held)
    (accepted : ((shell.performAll acts).perform act).fault = none)
    (named : named? (shell.performAll acts) act = some value) (other : act.isCommitOf id = false) :
    shell.Stages id named? default (acts ++ [act]) (some value) held where
  settled := by rw [latched?_of_other other, stages.settled]
  next := by rw [newest?_of_accepted accepted, named, Option.some_or, Option.getD_some, Option.getD_some]

/-- A commit puts in place what waits. -/
theorem commit (stages : shell.Stages id named? default acts waiting held)
    (accepted : ((shell.performAll acts).perform act).fault = none) (commits : act.isCommitOf id)
    (unnamed : named? (shell.performAll acts) act = none) :
    shell.Stages id named? default (acts ++ [act]) none (waiting.getD held) where
  settled := by rw [latched?_of_commit accepted commits unnamed, stages.next]
  next := by rw [newest?_of_unnamed unnamed, Option.getD_none, stages.next]

end Stages

end Shell

/-! ### The role of a surface -/

namespace Role

/-- A role apart from the state that is wanted of a window. -/
def unasked (role : Role) : Role := role.mapToplevel fun toplevel => { toplevel with pending := {} }

theorem mapToplevel_eq_toplevel_iff {role : Role} {change : Toplevel → Toplevel} {after : Toplevel} :
    role.mapToplevel change = .toplevel after ↔
      ∃ before, role = .toplevel before ∧ change before = after := by
  cases role <;> simp [mapToplevel]

theorem unasked_mapToplevel (role : Role) {change : Toplevel → Toplevel}
    (keeps : ∀ toplevel, { change toplevel with pending := {} } = { toplevel with pending := {} }) :
    (role.mapToplevel change).unasked = role.unasked := by
  cases role <;> simp [unasked, mapToplevel, keeps]

end Role

namespace Surface

variable {surface latched after : Surface} {commit : Commit} {effect : CommitEffect}
  {toplevel : Toplevel}

/-- The configure that an acknowledgement names is the oldest in flight under its serial. -/
theorem ack_find? {raw : UInt32} (done : surface.ack raw = .ok after) :
    (surface.inflight.find? fun configure => configure.serial.val = raw) = after.acked := by
  obtain ⟨acked, rest, found, rfl⟩ := ack_ok done
  rw [List.find?_eq_head?_dropWhile_not]
  simpa using congrArg List.head? found

/-- A commit of a window puts in place all that waits. -/
theorem commit_latches (done : surface.commit commit = .ok (after, effect)) (fitting : surface.Fitting)
    (window : after.role = .toplevel toplevel) :
    ∃ before, surface.role = .toplevel before ∧
      toplevel.bounds.min = before.declaredMin.getD before.bounds.min ∧
      toplevel.bounds.max = before.declaredMax.getD before.bounds.max ∧
      toplevel.declaredMin = none ∧ toplevel.declaredMax = none ∧
      .toplevel toplevel.current =
        (surface.acked.map Configure.payload).getD (.toplevel before.current) := by
  rw [commit_role done, latchContent, Role.mapToplevel_eq_toplevel_iff] at window
  obtain ⟨latched, role, rfl⟩ := window
  unfold latchAck at role
  cases acked : surface.acked with
  | none =>
    rw [acked] at role
    exact ⟨latched, role, rfl, rfl, rfl, rfl, rfl⟩
  | some configure =>
    rw [acked] at role
    cases payload : configure.payload with
    | toplevel state =>
      simp only [payload, Role.adopt, Role.mapToplevel_eq_toplevel_iff] at role
      obtain ⟨before, role, rfl⟩ := role
      exact ⟨before, role, rfl, rfl, rfl, rfl, by rw [Option.map_some, Option.getD_some, payload]; rfl⟩
    | popup geometry =>
      simp only [payload, Role.adopt] at role
      obtain ⟨state, proposed⟩ := fitting (isToplevel_iff.mpr ⟨latched, role⟩) configure (.inr acked)
      rw [payload] at proposed
      cases proposed

end Surface

namespace Shell

/-! ### What an act does to the three values -/

/-- The configure that an act acknowledges for a surface: the oldest one in flight there under the serial
that the act names. -/
def acknowledged? (id : SurfaceId) (shell : Shell) (act : Act) : Option Configure := do
  let raw ← act.ackOf? id
  let surface ← shell.surfaces.get? id
  surface.inflight.find? fun configure => configure.serial.val = raw

/-- **How an act treats what a surface keeps for its next commit.** -/
inductive Buffers (shell : Shell) (id : SurfaceId) : Act → Surface → Surface → Prop
  | rejected {act : Act} (surface : Surface) (rejected : (shell.perform act).fault ≠ none) :
      Buffers shell id act surface surface
  | least {surface after : Surface} (size : Extent)
      (accepted : (shell.perform (.request (.setMinSize id size))).fault = none)
      (done : surface.setMinSize size = .ok after) :
      Buffers shell id (.request (.setMinSize id size)) surface after
  | greatest {surface after : Surface} (size : Extent)
      (accepted : (shell.perform (.request (.setMaxSize id size))).fault = none)
      (done : surface.setMaxSize size = .ok after) :
      Buffers shell id (.request (.setMaxSize id size)) surface after
  | ack {surface after : Surface} (raw : UInt32)
      (accepted : (shell.perform (.request (.ack id raw))).fault = none)
      (done : surface.ack raw = .ok after) : Buffers shell id (.request (.ack id raw)) surface after
  | commit {surface latched after : Surface} {effect : CommitEffect} (commit : Commit)
      (accepted : (shell.perform (.request (.commit id commit))).fault = none)
      (done : surface.commit commit = .ok (latched, effect)) (role : after.role = latched.role)
      (acked : after.acked = none) : Buffers shell id (.request (.commit id commit)) surface after
  | aside {act : Act} {surface after : Surface} (smaller : act.leastOf? id = none)
      (greater : act.greatestOf? id = none) (unnamed : act.ackOf? id = none)
      (other : act.isCommitOf id = false) (acked : after.acked = surface.acked)
      (role : after.role.unasked = surface.role.unasked) : Buffers shell id act surface after

section Buffering

variable {shell : Shell} {id : SurfaceId} {act : Act} {surface after : Surface}

/-- A change of a surface that is accepted is stored. -/
theorem changeSurface_accepted {request : Request} {ask : SurfaceM Unit} (careful : ask.Careful)
    (handled : shell.handle request = shell.changeSurface id ask)
    (present : shell.surfaces.get? id = some surface)
    (accepted : (shell.perform (.request request)).fault = none)
    (found : (shell.perform (.request request)).shell.surfaces.get? id = some after) :
    surface.obey ask = .ok after := by
  rw [perform, handled] at accepted found
  rcases changeSurface_cases shell id careful with
    ⟨fault, refused⟩ | ⟨before, changed, there, done, taken⟩
  · rw [refused] at accepted
    cases accepted
  · obtain rfl := Option.some.inj (present.symm.trans there)
    rw [taken, accept, putSurface_surface] at found
    obtain rfl := Option.some.inj found
    exact done

/-- **Every act treats every surface in one of these ways.** -/
theorem perform_buffers (roled : shell.Roled) (present : shell.surfaces.get? id = some surface)
    (found : (shell.perform act).shell.surfaces.get? id = some after) :
    shell.Buffers id act surface after := by
  by_cases accepted : (shell.perform act).fault = none
  swap
  · obtain rfl := Option.some.inj (present.symm.trans (kept_of_rejected accepted found))
    exact .rejected surface accepted
  cases smaller : act.leastOf? id with
  | some size =>
    obtain rfl := Act.leastOf?_eq_some_iff.mp smaller
    exact .least size accepted (changeSurface_accepted (by simp) rfl present accepted found)
  | none =>
  cases greater : act.greatestOf? id with
  | some size =>
    obtain rfl := Act.greatestOf?_eq_some_iff.mp greater
    exact .greatest size accepted (changeSurface_accepted (by simp) rfl present accepted found)
  | none =>
  -- acknowledgements and commits are told apart already
  have attends := perform_attends roled present found
  cases attends with
  | rejected _ refused => exact absurd accepted refused
  | ack raw accepted done => exact .ack raw accepted done
  | commit commit accepted done acked =>
    obtain ⟨inflight, stored⟩ := commit_stored present done
    obtain rfl := Option.some.inj (stored.symm.trans found)
    exact .commit commit accepted done rfl (acked.trans (Surface.commit_waiting done).1)
  | aside unnamed other acked =>
    refine .aside smaller greater unnamed other acked ?_
    obtain ⟨sent, -, turn⟩ := perform_turn roled act id
    rw [present, found] at turn
    cases turn with
    | rest => rfl
    | declareMin size => simp [Act.leastOf?] at smaller
    | declareMax size => simp [Act.greatestOf?] at greater
    | ack raw => simp [Act.ackOf?] at unnamed
    | commit commit | invite commit => simp [Act.isCommitOf] at other
    | agree => exact Role.unasked_mapToplevel _ fun _ => rfl
    | propose asked due =>
      obtain ⟨-, -, rfl, -⟩ := Surface.schedule_some due
      exact Role.unasked_mapToplevel _ fun _ => rfl

end Buffering

/-! ### The three values along a lifetime -/

/-- **What a window keeps for its next commit**, staged as a run names it. -/
structure Latches (shell : Shell) (id : SurfaceId) (acts : List Act) (surface : Surface)
    (toplevel : Toplevel) : Prop where
  least : shell.Stages id (fun _ act => act.leastOf? id) {} acts toplevel.declaredMin toplevel.bounds.min
  greatest :
    shell.Stages id (fun _ act => act.greatestOf? id) {} acts toplevel.declaredMax toplevel.bounds.max
  state : shell.Stages id (fun shell act => (acknowledged? id shell act).map Configure.payload)
    (.toplevel {}) acts (surface.acked.map Configure.payload) (.toplevel toplevel.current)

section Latching

variable {start opened : Shell} {id : SurfaceId} {acts front life : List Act} {act : Act}
  {surface after : Surface} {toplevel later : Toplevel}

theorem acknowledged?_of_unnamed (unnamed : act.ackOf? id = none) (shell : Shell) :
    (acknowledged? id shell act).map Configure.payload = none := by
  rw [acknowledged?, unnamed]
  rfl

/-- **One act**: the three values are staged independently, and latched together. -/
theorem Buffers.latches (buffers : (opened.performAll life).Buffers id act surface after)
    (present : (opened.performAll life).surfaces.get? id = some surface) (fitting : surface.Fitting)
    (window : after.role = .toplevel later)
    (latches : ∀ toplevel, surface.role = .toplevel toplevel → opened.Latches id life surface toplevel) :
    opened.Latches id (life ++ [act]) after later := by
  cases buffers with
  | rejected _ rejected =>
    obtain ⟨least, greatest, state⟩ := latches later window
    exact ⟨least.rejected rejected, greatest.rejected rejected, state.rejected rejected⟩
  | least size accepted done =>
    rw [Surface.changeToplevel_ok done] at window ⊢
    obtain ⟨toplevel, role, rfl⟩ := Role.mapToplevel_eq_toplevel_iff.mp window
    obtain ⟨least, greatest, state⟩ := latches toplevel role
    exact ⟨least.declare accepted (if_pos rfl) rfl, greatest.aside rfl rfl, state.aside rfl rfl⟩
  | greatest size accepted done =>
    rw [Surface.changeToplevel_ok done] at window ⊢
    obtain ⟨toplevel, role, rfl⟩ := Role.mapToplevel_eq_toplevel_iff.mp window
    obtain ⟨least, greatest, state⟩ := latches toplevel role
    exact ⟨least.aside rfl rfl, greatest.declare accepted (if_pos rfl) rfl, state.aside rfl rfl⟩
  | ack raw accepted done =>
    have named := Surface.ack_find? done
    obtain ⟨acked, rest, -, rfl⟩ := Surface.ack_ok done
    obtain ⟨least, greatest, state⟩ := latches later window
    refine ⟨least.aside rfl rfl, greatest.aside rfl rfl, state.declare accepted ?_ rfl⟩
    simp [acknowledged?, Act.ackOf?, present, named]
  | commit commit accepted done role acked =>
    rw [role] at window
    obtain ⟨toplevel, role, min, max, noMin, noMax, current⟩ :=
      Surface.commit_latches done fitting window
    obtain ⟨least, greatest, state⟩ := latches toplevel role
    refine ⟨?_, ?_, ?_⟩
    · rw [noMin, min]
      exact least.commit accepted (decide_eq_true rfl) rfl
    · rw [noMax, max]
      exact greatest.commit accepted (decide_eq_true rfl) rfl
    · rw [acked, current]
      exact state.commit accepted (decide_eq_true rfl) rfl
  | aside smaller greater unnamed other acked role =>
    rw [window] at role
    obtain ⟨toplevel, same, core⟩ := Role.mapToplevel_eq_toplevel_iff.mp role.symm
    obtain ⟨least, greatest, state⟩ := latches toplevel same
    rw [Toplevel.mk.injEq] at core
    obtain ⟨current, bounds, -, declaredMin, declaredMax⟩ := core
    refine ⟨?_, ?_, ?_⟩
    · rw [← declaredMin, ← bounds]
      exact least.aside smaller other
    · rw [← declaredMax, ← bounds]
      exact greatest.aside greater other
    · rw [acked, ← current]
      exact state.aside (acknowledged?_of_unnamed unnamed _) other

/-- **What a window keeps is staged as its lifetime names it.** -/
theorem Lifetime.latches (current : Lifetime start id acts front life) (begins : Reached 0 start)
    (found : (start.performAll acts).surfaces.get? id = some surface)
    (window : surface.role = .toplevel toplevel) :
    (start.performAll front).Latches id life surface toplevel := by
  refine current.arising (motive := fun life surface => ∀ toplevel, surface.role = .toplevel toplevel →
    (start.performAll front).Latches id life surface toplevel) begins.roled found ?arises ?continues
    toplevel window
  case arises =>
    rintro earlier creating role - arises toplevel window
    cases arises with
    | window =>
      obtain rfl := Role.toplevel.inj window
      exact ⟨.new _ _ _ _, .new _ _ _ _, .new _ _ _ _⟩
    | popup => cases window
  case continues =>
    intro life act surface after roled present found latches later window
    have fitting := ((begins.performAll front).performAll life).fitting id surface present
    exact (perform_buffers roled present found).latches present fitting window latches

/-- One more act in the lifetime of a surface. -/
theorem Lifetime.snoc (current : Lifetime start id acts front life)
    (found : ((start.performAll acts).perform act).shell.surfaces.get? id = some after) :
    Lifetime start id (acts ++ [act]) front (life ++ [act]) where
  split := by rw [current.split, List.append_assoc]
  created := current.created
  lasts := lasts_snoc.mpr ⟨current.lasts, by
    rw [← performAll_append, ← List.append_assoc, ← current.split, performAll_append, performAll_cons,
      performAll_nil, found, Option.isSome_some]⟩

/-- Acts of which none is carried out change nothing. -/
theorem performAll_of_rejected {count : Nat} {shell : Shell} (reached : Reached count shell) (acts : List Act)
    (rejected : shell.carriedOut acts = []) : shell.performAll acts = shell := by
  induction acts with
  | nil => rfl
  | cons act acts ih =>
    rw [carriedOut] at rejected
    cases fault : (shell.perform act).fault with
    | none => simp [fault] at rejected
    | some cause =>
      have same : (shell.perform act).shell = shell := 
        perform_rejected reached.parentsFirst (by simp [fault])
      simp only [fault, same] at rejected
      rw [performAll_cons, same, ih rejected]

/-- A window keeps what it holds until a commit of it succeeds. -/
theorem Buffers.keeps {shell : Shell} (buffers : shell.Buffers id act surface after)
    (window : surface.role = .toplevel toplevel)
    (uncommitted : act.isCommitOf id = false ∨ (shell.perform act).fault ≠ none) :
    ∃ later, after.role = .toplevel later ∧ later.bounds = toplevel.bounds ∧
      later.current = toplevel.current := by
  cases buffers with
  | rejected => exact ⟨toplevel, window, rfl, rfl⟩
  | least size accepted done | greatest size accepted done =>
    rw [Surface.changeToplevel_ok done]
    exact ⟨_, Role.mapToplevel_eq_toplevel_iff.mpr ⟨toplevel, window, rfl⟩, rfl, rfl⟩
  | ack raw accepted done =>
    obtain ⟨_, _, -, rfl⟩ := Surface.ack_ok done
    exact ⟨toplevel, window, rfl, rfl⟩
  | commit commit accepted =>
    rcases uncommitted with other | rejected
    · exact absurd other (by simp [Act.isCommitOf])
    · exact absurd accepted rejected
  | aside _ _ _ _ _ role =>
    rw [window] at role
    obtain ⟨later, same, core⟩ := Role.mapToplevel_eq_toplevel_iff.mp role
    rw [Toplevel.mk.injEq] at core
    exact ⟨later, same, core.2.1, core.1⟩

/-- A configure that is acknowledged was posted to the surface. -/
theorem acknowledged?_posted (begins : Reached 0 start) {configure : Configure}
    (acked : acknowledged? id (start.performAll acts) act = some configure) :
    .configure id configure ∈ (start.performAll acts).outbox := by
  simp only [acknowledged?, Option.bind_eq_bind, Option.bind_eq_some_iff] at acked
  obtain ⟨raw, -, surface, present, named⟩ := acked
  obtain ⟨front, life, current⟩ := lifetime_exists (begins.untouched id) acts present
  obtain ⟨sent, same, draws⟩ := current.drawsOn begins.roled present
  rw [← performAll_append, ← current.split] at same
  rw [← mem_sentTo, same]
  exact List.mem_append_right _ (draws.waiting configure (.inl (List.mem_of_find?_eq_some named)))

/-! ### What a window holds -/

/-- **What a window holds was named last**, in a sense of last that is given: the least and the greatest
size, and the payload of the configure that was acknowledged. What was never named is empty. -/
structure Holds (toplevel : Toplevel) (id : SurfaceId)
    (last? : ∀ α : Type, (Shell → Act → Option α) → Option α) : Prop where
  least : toplevel.bounds.min = (last? Extent fun _ act => act.leastOf? id).getD {}
  greatest : toplevel.bounds.max = (last? Extent fun _ act => act.greatestOf? id).getD {}
  payload : .toplevel toplevel.current = (last? Payload fun shell act =>
    (acknowledged? id shell act).map Configure.payload).getD (.toplevel {})

/-- A commit that succeeds puts in place what was named last, however many rejected acts come before. -/
theorem Lifetime.holds_newest (current : Lifetime start id acts front life) (begins : Reached 0 start)
    (found : (start.performAll acts).surfaces.get? id = some surface)
    (window : surface.role = .toplevel toplevel) {rejected : List Act} {commit : Commit}
    (traceless : (start.performAll acts).carriedOut rejected = [])
    (accepted :
      ((start.performAll (acts ++ rejected)).perform (.request (.commit id commit))).fault = none) :
    ∃ after later, ((start.performAll (acts ++ rejected)).perform
        (.request (.commit id commit))).shell.surfaces.get? id = some after ∧
      after.role = .toplevel later ∧
      Holds later id fun _ named? => (start.performAll front).newest? named? life := by
  rw [performAll_append, performAll_of_rejected (begins.performAll acts) rejected traceless] at accepted ⊢
  obtain ⟨latched, effect, done⟩ := commit_of_accepted found accepted
  obtain ⟨inflight, stored⟩ := commit_stored found done
  have kind : latched.isToplevel :=
    Surface.isToplevel_of_wanted? (Surface.wanted?_commit done) ▸ Surface.isToplevel_iff.mpr ⟨_, window⟩
  obtain ⟨later, role⟩ := Surface.isToplevel_iff.mp kind
  have whole : (start.performAll (acts ++ [.request (.commit id commit)])).surfaces.get? id =
      some { latched with inflight } := by
    rwa [performAll_append]
  obtain ⟨least, greatest, state⟩ := (current.snoc stored).latches begins whole role
  rw [current.split, performAll_append] at accepted
  refine ⟨_, later, stored, role, ?_, ?_, ?_⟩
  · rw [least.settled, latched?_of_commit accepted (decide_eq_true rfl) rfl]
  · rw [greatest.settled, latched?_of_commit accepted (decide_eq_true rfl) rfl]
  · rw [state.settled, latched?_of_commit accepted (decide_eq_true rfl) rfl]

/-- **A window holds what its history says.** In any run, the least and the greatest size that a window
holds are the last ones declared before its last commit that succeeded, and its state is the payload of
the configure acknowledged last before that commit, which is one that was posted to it. Nothing but such
a commit changes them. And what was named before rejected acts is put in place by the next commit that
succeeds. -/
theorem window_holds_its_history (begins : Reached 0 start) (acts : List Act) :
    (∀ id surface toplevel, (start.performAll acts).surfaces.get? id = some surface →
      surface.role = .toplevel toplevel →
        (∃ front life, Lifetime start id acts front life) ∧
        (∀ front life, Lifetime start id acts front life →
          Holds toplevel id fun _ named? => (start.performAll front).latched? id named? life) ∧
        (∀ act after,
          act.isCommitOf id = false ∨ ((start.performAll acts).perform act).fault ≠ none →
          ((start.performAll acts).perform act).shell.surfaces.get? id = some after →
            ∃ later, after.role = .toplevel later ∧ later.bounds = toplevel.bounds ∧
              later.current = toplevel.current) ∧
        ∀ front life rejected commit, Lifetime start id acts front life →
          (start.performAll acts).carriedOut rejected = [] →
          ((start.performAll (acts ++ rejected)).perform (.request (.commit id commit))).fault = none →
            ∃ after later, ((start.performAll (acts ++ rejected)).perform
                (.request (.commit id commit))).shell.surfaces.get? id = some after ∧
              after.role = .toplevel later ∧
              Holds later id fun _ named? => (start.performAll front).newest? named? life) ∧
      ∀ id act configure, acknowledged? id (start.performAll acts) act = some configure →
        .configure id configure ∈ (start.performAll acts).outbox := by
  refine ⟨fun id surface toplevel present window => ⟨?_, ?_, ?_, ?_⟩, ?_⟩
  · exact lifetime_exists (begins.untouched id) acts present
  · intro front life current
    obtain ⟨least, greatest, state⟩ := current.latches begins present window
    exact ⟨least.settled, greatest.settled, state.settled⟩
  · intro act after uncommitted found
    exact (perform_buffers (begins.performAll acts).roled present found).keeps window uncommitted
  · intro front life rejected commit current traceless accepted
    exact current.holds_newest begins present window traceless accepted
  · exact fun id act configure acked => acknowledged?_posted begins acked

/-- A window declares a least size twice and attaches a buffer too early. Later it acknowledges two
configures before one commit, and a third one after it. -/
def declaredTwice : List Act :=
  [ .request (.newToplevel ⟨1⟩), .request (.setMinSize ⟨1⟩ { width := 1, height := 1 }),
    .request (.setMinSize ⟨1⟩ { width := 5, height := 5 }),
    .request (.setMaxSize ⟨1⟩ { width := 9, height := 9 }),
    .request (.commit ⟨1⟩ { buffer := .attach { width := 6, height := 6 } }),
    .request (.commit ⟨1⟩ {}), .call ⟨1⟩ (.activate true), .request (.ack ⟨1⟩ 1),
    .request (.ack ⟨1⟩ 2), .request (.commit ⟨1⟩ { buffer := .attach { width := 6, height := 6 } }),
    .request (.setMinSize ⟨1⟩ { width := 7, height := 7 }), .call ⟨1⟩ (.activate false),
    .request (.ack ⟨1⟩ 3) ]

/-- The first commit that succeeds makes up for the one that was rejected, and the second one takes over
the later of two acknowledgements. What came after it still waits at the end. -/
theorem window_holds_its_history_declaredTwice :
    (∃ surface toplevel, ((fresh { pingOnCreate := false } .empty 0).performAll
        declaredTwice).surfaces.get? ⟨1⟩ = some surface ∧ surface.role = .toplevel toplevel ∧
      toplevel.declaredMin = some { width := 7, height := 7 } ∧
      toplevel.bounds = { min := { width := 5, height := 5 }, max := { width := 9, height := 9 } } ∧
      toplevel.current = { activated := true } ∧
      Holds toplevel ⟨1⟩ fun _ named? => ((fresh { pingOnCreate := false } .empty 0).performAll
        (declaredTwice.take 1)).latched? ⟨1⟩ named? (declaredTwice.drop 1)) ∧
    ∃ after later, ((fresh { pingOnCreate := false } .empty 0).performAll
        (declaredTwice.take 6)).surfaces.get? ⟨1⟩ = some after ∧ after.role = .toplevel later ∧
      later.bounds.min = { width := 5, height := 5 } ∧
      Holds later ⟨1⟩ fun _ named? => ((fresh { pingOnCreate := false } .empty 0).performAll
        (declaredTwice.take 1)).newest? named? ((declaredTwice.take 4).drop 1) := by
  have begins : Reached 0 (fresh { pingOnCreate := false } .empty 0) := .fresh 0 _ _ _
  have creates : (fresh { pingOnCreate := false } .empty 0).Creates ⟨1⟩ (.request (.newToplevel ⟨1⟩)) :=
    ⟨rfl, rfl⟩
  constructor
  · have window : (((fresh { pingOnCreate := false } .empty 0).performAll declaredTwice).surfaces.get?
        ⟨1⟩).map Surface.role = some (.toplevel
          { declaredMin := some { width := 7, height := 7 }
            bounds := { min := { width := 5, height := 5 }, max := { width := 9, height := 9 } }
            current := { activated := true } }) := by decide +kernel
    obtain ⟨surface, found, role⟩ := Option.map_eq_some_iff.mp window
    refine ⟨surface, _, found, role, rfl, rfl, rfl, ?_⟩
    have holds := ((window_holds_its_history begins declaredTwice).1 ⟨1⟩ surface _ found role).2.1
    exact holds _ _ ⟨rfl, ⟨[], _, rfl, creates⟩,
      rfl, rfl, rfl, rfl, rfl, rfl, rfl, rfl, rfl, rfl, rfl, rfl, rfl⟩
  · have latches := ((window_holds_its_history begins (declaredTwice.take 4)).1 ⟨1⟩ _ _ rfl rfl).2.2.2
    obtain ⟨after, later, found, role, holds⟩ := latches (declaredTwice.take 1)
      ((declaredTwice.take 4).drop 1)
      [.request (.commit ⟨1⟩ { buffer := .attach { width := 6, height := 6 } })] {}
      ⟨rfl, ⟨[], _, rfl, creates⟩, rfl, rfl, rfl, rfl⟩ rfl rfl
    exact ⟨after, later, found, role, holds.least, holds⟩

end Latching

end Shell

end WindowShell
