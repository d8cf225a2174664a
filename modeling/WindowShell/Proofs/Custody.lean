/-
**Listeners and those who hold them.**

A holder of listeners moves them between names and sets, overwrites names, releases sets twice and gives
up sets that were never made. Whatever it does, the registry follows: what an operation puts into somebody's
hands is registered with it, and what falls out of all hands is released with it. So nothing is released
twice, nothing is forgotten, and the live registrations are the ledger of all registrations without what
was given up:

* `Custody.enroll`, `Custody.releaseAll`: what making and releasing registrations does to what is held;
* `step_exchange`: every operation trades what it gives up for what it registers;
* `custody_step`, `custody_run`: the registry follows an operation, and a whole run;
* `run_without_registry`: listeners that outlive the registry are given up like all others;
* `registrations_follow_their_handles`: all of it.
-/

import Mathlib.Data.List.Nodup
import WindowShell.Proofs.Ownership
import WindowShell.Registry.Handles

namespace WindowShell

namespace Table

variable {κ α : Type} [DecidableEq κ]

/-- A key has one entry, or none. -/
theorem filter_key {entries : List (κ × α)} (distinct : (entries.map Prod.fst).Nodup) (key : κ) :
    (entries.filter fun entry => entry.1 = key) =
      (entries.find? fun entry => entry.1 = key).toList := by
  induction entries with
  | nil => rfl
  | cons entry entries ih =>
    rw [List.map_cons, List.nodup_cons] at distinct
    by_cases here : entry.1 = key
    · have later : (entries.filter fun entry => entry.1 = key) = [] :=
        List.filter_eq_nil_iff.mpr fun other member same =>
          distinct.1 (here ▸ of_decide_eq_true same ▸ List.mem_map_of_mem member)
      simp [here, later]
    · simpa [here] using ih distinct.2

/-- Forgetting a key takes its value from the values. -/
theorem values_perm_erase (table : Table κ α) (key : κ) :
    table.values.Perm ((table.get? key).toList ++ (table.erase key).values) := by
  have split := (List.filter_append_perm (fun entry => entry.1 = key) table.entries).symm.map Prod.snd
  rw [filter_key table.distinct, List.map_append, ← Option.toList_map] at split
  simpa [values, erase, get?] using split

/-- A value that is written takes the place of the value of its key. -/
theorem values_insert_perm (table : Table κ α) (key : κ) (value : α) :
    (table.insert key value).values.Perm (value :: (table.erase key).values) := by
  have split := (table.insert key value).values_perm_erase key
  rwa [get?_insert, if_pos rfl, erase_insert] at split

end Table

/-! ### The registry and what is held -/

/-- The registry after the registrations an operation makes, and these with the numbers they got. -/
def Registry.enroll (registry : Registry) :
    HandleOp → Registry × List (ListenerId × Registration)
  | .subscribe _ registration =>
    let (registry, id) := registry.subscribe registration
    (registry, [(id, registration)])
  | .install _ surface target kinds =>
    let (registry, ids) := registry.install surface target kinds
    (registry, ids.zip (registrations surface target kinds))
  | _ => (registry, [])

/-- Whether an operation registers something. -/
def HandleOp.registers : HandleOp → Bool
  | .subscribe _ _ | .install _ _ _ _ => true
  | _ => false

/-- **The registry follows what is held**, where `ledger` has every registration ever made, oldest first. -/
structure Custody (ledger : List (ListenerId × Registration)) (registry : Registry)
    (held : List ListenerId) : Prop where
  /-- The registrations are numbered from one on. -/
  numbered : ledger.map Prod.fst = (List.range' 1 registry.issued).map ListenerId.mk
  /-- No listener is held twice. -/
  distinct : held.Nodup
  /-- A listener that is held was registered. -/
  known : ∀ id ∈ held, id ∈ ledger.map Prod.fst
  /-- What is live is what is held. -/
  live : registry.live.entries = ledger.filter fun entry => entry.1 ∈ held
  /-- What is not live any more was released. -/
  balanced : registry.Balanced

namespace Custody

variable {ledger : List (ListenerId × Registration)} {registry : Registry}
  {held other : List ListenerId}

theorem fresh : Custody [] {} [] where
  numbered := rfl
  distinct := List.nodup_nil
  known _ member := by cases member
  live := rfl
  balanced := rfl

theorem perm (custody : Custody ledger registry held) (same : held.Perm other) :
    Custody ledger registry other where
  numbered := custody.numbered
  distinct := same.nodup custody.distinct
  known id member := custody.known id (same.mem_iff.mpr member)
  live := by simpa only [same.mem_iff] using custody.live
  balanced := custody.balanced

theorem issued (custody : Custody ledger registry held) : registry.issued = ledger.length := by
  have lengths := congrArg List.length custody.numbered
  simpa using lengths.symm

/-- What was made is numbered up to the count of registrations. -/
theorem val_le (custody : Custody ledger registry held) {id : ListenerId}
    (member : id ∈ ledger.map Prod.fst) : id.val ≤ registry.issued := by
  rw [custody.numbered, List.mem_map] at member
  obtain ⟨number, inside, rfl⟩ := member
  have bounds := List.mem_range'_1.mp inside
  show number ≤ registry.issued
  omega

theorem keys (custody : Custody ledger registry held) :
    registry.live.keys = (ledger.map Prod.fst).filter fun id => id ∈ held := by
  rw [Table.keys, custody.live, List.filter_map]
  rfl

theorem mem_keys_iff (custody : Custody ledger registry held) {id : ListenerId} :
    id ∈ registry.live.keys ↔ id ∈ held := by
  rw [custody.keys, List.mem_filter, decide_eq_true_eq]
  exact ⟨And.right, fun member => ⟨custody.known id member, member⟩⟩

/-- **A registration is live exactly while its listener is held.** -/
theorem isLive_iff (custody : Custody ledger registry held) {id : ListenerId} :
    registry.isLive id ↔ id ∈ held :=
  Table.get?_isSome_iff.trans custody.mem_keys_iff

theorem keys_perm (custody : Custody ledger registry held) : registry.live.keys.Perm held :=
  (List.perm_ext_iff_of_nodup registry.live.keys_nodup custody.distinct).mpr fun _ =>
    custody.mem_keys_iff

theorem registered (custody : Custody ledger registry held) : registry.Numbered := fun _ member =>
  custody.val_le (custody.known _ (custody.mem_keys_iff.mp member))

/-- A new registration gets the next number, and whoever asked for it holds it. -/
theorem subscribe (custody : Custody ledger registry held) (registration : Registration) :
    Custody (ledger ++ [((registry.subscribe registration).2, registration)])
      (registry.subscribe registration).1 (held ++ [(registry.subscribe registration).2]) := by
  have unused : (⟨registry.issued + 1⟩ : ListenerId) ∉ ledger.map Prod.fst := fun member =>
    absurd (custody.val_le member) (by simp)
  refine ⟨?_, ?_, ?_, ?_, Registry.balanced_subscribe custody.registered custody.balanced registration⟩
  · show _ = (List.range' 1 (registry.issued + 1)).map ListenerId.mk
    rw [List.map_append, custody.numbered, List.range'_1_concat, List.map_append, Nat.add_comm 1]
    rfl
  · refine List.nodup_append.mpr ⟨custody.distinct, by simp, ?_⟩
    rintro id member new same rfl
    rw [List.mem_singleton.mp same] at member
    exact unused (custody.known _ member)
  · intro id member
    rw [List.map_append, List.mem_append]
    exact (List.mem_append.mp member).imp (custody.known id) fun new => by simpa using new
  · show (registry.live.insert _ registration).entries = _
    rw [Table.entries_insert_of_not_mem (Registry.not_mem_next custody.registered), custody.live,
      List.filter_append]
    congr 1
    · refine List.filter_congr fun entry member => ?_
      have old : entry.1 ≠ ⟨registry.issued + 1⟩ := fun same =>
        unused (same ▸ List.mem_map_of_mem member)
      simp [Registry.subscribe, old]
    · simp [Registry.subscribe]

theorem install (custody : Custody ledger registry held) (surface : SurfaceId)
    (target : ListenerTarget) (kinds : List SignalKind) :
    Custody
      (ledger ++ (registry.install surface target kinds).2.zip (registrations surface target kinds))
      (registry.install surface target kinds).1
      (held ++ (registry.install surface target kinds).2) := by
  induction kinds generalizing ledger registry held with
  | nil => simpa [Registry.install] using custody
  | cons kind kinds ih =>
    have later := ih (custody.subscribe { surface, kind, target })
    simpa [Registry.install, registrations] using later

/-- **What an operation registers is held besides all else.** -/
theorem enroll (custody : Custody ledger registry held) (operation : HandleOp) :
    Custody (ledger ++ (registry.enroll operation).2) (registry.enroll operation).1
      (held ++ (registry.enroll operation).2.map Prod.fst) := by
  cases operation with
  | subscribe name registration => exact custody.subscribe registration
  | install name surface target kinds =>
    have enough : (registry.install surface target kinds).2.length ≤
        (registrations surface target kinds).length := by simp [Registry.length_install]
    show Custody _ _ (held ++ (List.zip _ _).map Prod.fst)
    rw [List.map_fst_zip enough]
    exact custody.install surface target kinds
  | _ => simpa [Registry.enroll] using custody

theorem release {id : ListenerId} (custody : Custody ledger registry (id :: held)) :
    Custody ledger (registry.release id) held := by
  obtain ⟨free, distinct⟩ := List.nodup_cons.mp custody.distinct
  have live : registry.isLive id := custody.isLive_iff.mpr List.mem_cons_self
  have released : registry.release id =
      { registry with live := registry.live.erase id, released := registry.released + 1 } :=
    if_pos live
  refine ⟨?_, distinct, fun other member => custody.known other (List.mem_cons_of_mem _ member), ?_,
    Registry.balanced_release custody.balanced id⟩
  · rw [released]
    exact custody.numbered
  · rw [released]
    show registry.live.entries.filter (fun entry => entry.1 ≠ id) = _
    rw [custody.live, List.filter_filter]
    refine List.filter_congr fun entry _ => ?_
    by_cases same : entry.1 = id
    · simp [same, free]
    · simp [same]

/-- **What is released was held, and is not held any more.** -/
theorem releaseAll {given : List ListenerId} (custody : Custody ledger registry (given ++ held)) :
    Custody ledger (registry.releaseAll given) held := by
  induction given generalizing registry with
  | nil => exact custody
  | cons id given ih => exact ih custody.release

end Custody

namespace Handles

open scoped List

/-! ### What an operation gives up -/

/-- The registrations an operation makes, with the numbers they get. -/
def enrolled (handles : Handles) (operation : HandleOp) : List (ListenerId × Registration) :=
  (handles.registry.map fun registry => (registry.enroll operation).2).getD []

/-- The registrations that were live before an operation and are not live after it. -/
def ended (handles : Handles) (operation : HandleOp) : List ListenerId :=
  match handles.registry, (handles.step operation).registry with
  | some before, some after => before.live.keys.filter fun id => !after.isLive id
  | _, _ => []

/-- All registrations operations make, oldest first. -/
def ledger (handles : Handles) : List HandleOp → List (ListenerId × Registration)
  | [] => []
  | operation :: operations =>
    handles.enrolled operation ++ (handles.step operation).ledger operations

/-- All registrations that end while operations are performed. -/
def endedAll (handles : Handles) : List HandleOp → List ListenerId
  | [] => []
  | operation :: operations => handles.ended operation ++ (handles.step operation).endedAll operations

/-- What is held besides the listener of a name. -/
def besides (handles : Handles) (name : String) : List ListenerId :=
  (handles.single.erase name).values ++ handles.sets.values.flatten

/-- What is held besides the listeners of a set. -/
def outside (handles : Handles) (set : String) : List ListenerId :=
  handles.single.values ++ (handles.sets.erase set).values.flatten

theorem allHeld_perm_besides (handles : Handles) (name : String) :
    handles.allHeld.Perm (handles.held name ++ handles.besides name) := by
  rw [allHeld, besides, ← List.append_assoc]
  exact (handles.single.values_perm_erase name).append_right _

theorem allHeld_perm_outside (handles : Handles) (set : String) :
    handles.allHeld.Perm (handles.members set ++ handles.outside set) := by
  have split := (handles.sets.values_perm_erase set).flatten
  have members : (handles.sets.get? set).toList.flatten = handles.members set := by
    rw [Handles.members]
    cases handles.sets.get? set <;> simp
  rw [List.flatten_append, members] at split
  exact (split.append_left _).trans (List.perm_append_comm_assoc _ _ _)

theorem insert_perm_besides (handles : Handles) (name : String) (id : ListenerId) :
    ((handles.single.insert name id).values ++ handles.sets.values.flatten).Perm
      (id :: handles.besides name) :=
  (handles.single.values_insert_perm name id).append_right _

theorem insert_perm_outside (handles : Handles) (set : String) (ids : List ListenerId) :
    (handles.single.values ++ (handles.sets.insert set ids).values.flatten).Perm
      (ids ++ handles.outside set) :=
  ((handles.sets.values_insert_perm set ids).flatten.append_left _).trans
    (List.perm_append_comm_assoc _ _ _)

/-- A set that is released keeps its name and holds nothing. -/
theorem modify_perm_outside (handles : Handles) (set : String) :
    (handles.single.values ++ (handles.sets.modify set fun _ => []).values.flatten).Perm
      (handles.outside set) := by
  have split := ((handles.sets.modify set fun _ => []).values_perm_erase set).flatten
  have none : ((handles.sets.modify set fun _ => []).get? set).toList.flatten = [] := by
    rw [Table.get?_modify, if_pos rfl]
    cases handles.sets.get? set <;> rfl
  have same : (handles.sets.modify set fun _ => []).erase set = handles.sets.erase set :=
    Table.ext (Table.filter_changeValue handles.sets.entries set fun _ => [])
  rw [List.flatten_append, none, same] at split
  exact split.append_left _

/-- A listener that moves into a set is held as before. -/
theorem push_perm (handles : Handles) (set : String) {listener : String} {id : ListenerId}
    (found : handles.single.get? listener = some id) :
    handles.allHeld.Perm ((handles.single.erase listener).values ++
      (handles.sets.insert set (handles.members set ++ [id])).values.flatten) := by
  let left : Handles := { handles with single := handles.single.erase listener }
  have alone : handles.held listener = [id] := by rw [held, found, Option.toList_some]
  calc handles.allHeld
    _ ~ handles.held listener ++ left.allHeld := handles.allHeld_perm_besides listener
    _ ~ [id] ++ (left.members set ++ left.outside set) := by
      rw [alone]
      exact (left.allHeld_perm_outside set).append_left [id]
    _ ~ left.members set ++ [id] ++ left.outside set := by
      rw [List.append_assoc]
      exact List.perm_append_comm_assoc _ _ _
    _ ~ _ := (left.insert_perm_outside set _).symm

/-- Two lists that differ in what one gives away and the other gets. -/
theorem trade {α : Type} {before after kept given new : List α} (lost : before.Perm (given ++ kept))
    (won : after.Perm (new ++ kept)) : (before ++ new).Perm (given ++ after) := by
  refine (lost.append_right new).trans ?_
  rw [List.append_assoc]
  exact (List.perm_append_comm.trans won.symm).append_left given

/-- **An operation trades what it gives up for what it registers.** While there is a registry, it releases
there what falls out of the holder's hands. -/
theorem step_exchange {handles : Handles} {registry after : Registry} {operation : HandleOp}
    (there : handles.registry = some registry)
    (still : (handles.step operation).registry = some after) :
    ∃ given, after = (registry.enroll operation).1.releaseAll given ∧
      (handles.allHeld ++ (registry.enroll operation).2.map Prod.fst).Perm
        (given ++ (handles.step operation).allHeld) ∧ given ⊆ handles.allHeld := by
  have alone : ∀ name, handles.held name ⊆ handles.allHeld := fun name =>
    List.Subset.trans (List.subset_append_left _ _) (handles.allHeld_perm_besides name).symm.subset
  have together : ∀ set, handles.members set ⊆ handles.allHeld := fun set =>
    List.Subset.trans (List.subset_append_left _ _) (handles.allHeld_perm_outside set).symm.subset
  cases operation with
  | subscribe name registration =>
    simp only [step, there] at still ⊢
    exact ⟨handles.held name, (Option.some.inj still).symm,
      trade (handles.allHeld_perm_besides name) (handles.insert_perm_besides name _), alone name⟩
  | drop name =>
    simp only [step, giveUp, there] at still ⊢
    exact ⟨handles.held name, (Option.some.inj still).symm,
      trade (handles.allHeld_perm_besides name) (.refl _), alone name⟩
  | install name surface target kinds =>
    have numbers : (registry.enroll (.install name surface target kinds)).2.map Prod.fst =
        (registry.install surface target kinds).2 :=
      List.map_fst_zip (by simp [Registry.length_install])
    simp only [step, there] at still ⊢
    rw [numbers]
    exact ⟨handles.members name, (Option.some.inj still).symm,
      trade (handles.allHeld_perm_outside name) (handles.insert_perm_outside name _), together name⟩
  | push set listener =>
    cases found : handles.single.get? listener with
    | none =>
      simp only [step, found, there] at still ⊢
      exact ⟨[], (Option.some.inj still).symm, by simp [Registry.enroll], List.nil_subset _⟩
    | some id =>
      simp only [step, found, there] at still ⊢
      refine ⟨[], (Option.some.inj still).symm, ?_, List.nil_subset _⟩
      show (handles.allHeld ++ []).Perm _
      rw [List.append_nil]
      exact handles.push_perm set found
  | release set =>
    simp only [step, giveUp, there] at still ⊢
    exact ⟨handles.members set, (Option.some.inj still).symm,
      trade (handles.allHeld_perm_outside set) (handles.modify_perm_outside set), together set⟩
  | dropSet set =>
    simp only [step, giveUp, there] at still ⊢
    exact ⟨handles.members set, (Option.some.inj still).symm,
      trade (handles.allHeld_perm_outside set) (.refl _), together set⟩
  | dropRegistry => cases still

/-! ### The registry follows -/

section Following

variable {handles : Handles} {ledger : List (ListenerId × Registration)} {gone : List ListenerId}

/-- **The registry follows an operation**, and what it releases was live until then. -/
theorem custody_step {registry after : Registry} {operation : HandleOp}
    (custody : Custody ledger registry handles.allHeld) (there : handles.registry = some registry)
    (still : (handles.step operation).registry = some after) :
    Custody (ledger ++ handles.enrolled operation) after (handles.step operation).allHeld ∧
      (handles.ended operation ++ after.live.keys).Perm
        (registry.live.keys ++ (handles.enrolled operation).map Prod.fst) := by
  have enrolled : handles.enrolled operation = (registry.enroll operation).2 := by
    rw [Handles.enrolled, there, Option.map_some, Option.getD_some]
  rw [enrolled]
  obtain ⟨given, released, trades, own⟩ := step_exchange there still
  have traded := (custody.enroll operation).perm trades
  have later : Custody _ after _ := released ▸ traded.releaseAll
  refine ⟨later, ?_⟩
  -- what ends is what was given up
  have ended : (handles.ended operation).Perm given := by
    obtain ⟨distinct, -, apart⟩ := List.nodup_append.mp traded.distinct
    simp only [Handles.ended, there, still]
    refine (List.perm_ext_iff_of_nodup (registry.live.keys_nodup.filter _) distinct).mpr fun id => ?_
    rw [List.mem_filter, Bool.not_eq_true', ← Bool.not_eq_true, custody.mem_keys_iff,
      later.isLive_iff]
    constructor
    · rintro ⟨before, lost⟩
      exact (List.mem_append.mp (trades.mem_iff.mp (List.mem_append_left _ before))).resolve_right lost
    · exact fun member => ⟨own member, fun kept => apart id member id kept rfl⟩
  calc handles.ended operation ++ after.live.keys
    _ ~ given ++ (handles.step operation).allHeld := ended.append later.keys_perm
    _ ~ handles.allHeld ++ (registry.enroll operation).2.map Prod.fst := trades.symm
    _ ~ _ := custody.keys_perm.symm.append_right _

/-- What holds of a holder, all registrations that were made, and those of them that ended. -/
structure Followed (handles : Handles) (ledger : List (ListenerId × Registration))
    (gone : List ListenerId) : Prop where
  numbered : ledger.map Prod.fst = (List.range' 1 ledger.length).map ListenerId.mk
  custody : ∀ registry, handles.registry = some registry → Custody ledger registry handles.allHeld
  /-- What was registered ended or is live. -/
  ends : ∀ registry, handles.registry = some registry →
    (gone ++ registry.live.keys).Perm (ledger.map Prod.fst)

theorem followed_fresh : Followed {} [] [] where
  numbered := rfl
  custody registry there := Option.some.inj there ▸ .fresh
  ends registry there := by
    cases there
    exact .refl _

/-- Without a registry there will be none. -/
theorem step_unregistered (gone : handles.registry = none) (operation : HandleOp) :
    (handles.step operation).registry = none ∧ handles.enrolled operation = [] ∧
      handles.ended operation = [] := by
  refine ⟨?_, by simp [enrolled, gone], by simp [ended, gone]⟩
  cases operation with
  | push set listener =>
    simp only [step]
    split <;> exact gone
  | _ => simp [step, giveUp, gone]

theorem Followed.step (followed : Followed handles ledger gone) (operation : HandleOp) :
    Followed (handles.step operation) (ledger ++ handles.enrolled operation)
      (gone ++ handles.ended operation) := by
  cases there : handles.registry with
  | none =>
    obtain ⟨lost, nothing, none⟩ := step_unregistered there operation
    rw [nothing, none, List.append_nil, List.append_nil]
    exact ⟨followed.numbered, by simp [lost], by simp [lost]⟩
  | some registry =>
    have custody := followed.custody registry there
    refine ⟨?_, fun after still => (custody_step custody there still).1, fun after still => ?_⟩
    · have enrolled := custody.enroll operation
      rw [Handles.enrolled, there, Option.map_some, Option.getD_some, enrolled.numbered,
        enrolled.issued]
    · have exchanged := (custody_step custody there still).2
      rw [List.append_assoc, List.map_append]
      refine (exchanged.append_left gone).trans ?_
      rw [← List.append_assoc]
      exact (followed.ends registry there).append_right _

/-- **The registry follows a run.** -/
theorem Followed.run (followed : Followed handles ledger gone) (operations : List HandleOp) :
    Followed (handles.run operations) (ledger ++ handles.ledger operations)
      (gone ++ handles.endedAll operations) := by
  induction operations generalizing handles ledger gone with
  | nil => simpa [Handles.run, Handles.ledger, endedAll] using followed
  | cons operation operations ih =>
    have onward := ih (followed.step operation)
    rwa [List.append_assoc, List.append_assoc] at onward

/-! ### Without a registry -/

/-- Without a registry, nothing is registered any more. -/
theorem run_unregistered (gone : handles.registry = none) (operations : List HandleOp) :
    (handles.run operations).registry = none ∧ handles.ledger operations = [] := by
  induction operations generalizing handles with
  | nil => exact ⟨gone, rfl⟩
  | cons operation operations ih =>
    obtain ⟨lost, nothing, -⟩ := step_unregistered gone operation
    obtain ⟨still, silent⟩ := ih lost
    exact ⟨still, by rw [Handles.ledger, nothing, silent, List.append_nil]⟩

/-- **Listeners that outlive the registry are given up like all others.** -/
theorem run_without_registry {operations : List HandleOp}
    (idle : ∀ operation ∈ operations, ¬ operation.registers) :
    ({ handles with registry := none }).run operations =
      { handles.run operations with registry := none } := by
  induction operations generalizing handles with
  | nil => rfl
  | cons operation operations ih =>
    obtain ⟨quiet, idle⟩ := List.forall_mem_cons.mp idle
    have same : ({ handles with registry := none }).step operation =
        { handles.step operation with registry := none } := by
      cases operation with
      | subscribe | install => exact absurd rfl quiet
      | push set listener =>
        simp only [step]
        cases handles.single.get? listener <;> rfl
      | _ => rfl
    show (({ handles with registry := none }).step operation).run operations = _
    rw [same]
    exact ih idle

end Following

/-- **The registry and what is held agree**, where `ledger` has all registrations ever made, oldest first,
and `gone` those that ended. -/
structure Agrees (handles : Handles) (registry : Registry)
    (ledger : List (ListenerId × Registration)) (gone : List ListenerId) : Prop where
  /-- No listener is held twice. -/
  distinct : handles.allHeld.Nodup
  /-- A registration is live exactly while its listener is held. -/
  live : ∀ id, registry.isLive id ↔ id ∈ handles.allHeld
  /-- Live and released registrations are together all that were ever made. -/
  balanced : registry.size + registry.released = ledger.length
  /-- What was made is live, or it ended once. -/
  once : (gone ++ registry.live.keys).Perm (ledger.map Prod.fst)
  released : registry.released = gone.length
  /-- The listeners of a signal are live, and come in the order in which they registered. -/
  listeners : ∀ surface kind, registry.listeners surface kind =
    (ledger.filter fun entry => registry.isLive entry.1 && (entry.2.surface = surface &&
      entry.2.kind = kind)).map fun entry => (entry.1, entry.2.target)
  counts : ∀ target, registry.countFor target =
    ledger.countP fun entry => registry.isLive entry.1 && entry.2.target = target

theorem Followed.agrees {handles : Handles} {registry : Registry}
    {ledger : List (ListenerId × Registration)} {gone : List ListenerId}
    (followed : Followed handles ledger gone) (there : handles.registry = some registry) :
    Agrees handles registry ledger gone := by
  have custody := followed.custody registry there
  have once := followed.ends registry there
  have balanced : registry.size + registry.released = ledger.length :=
    custody.balanced.trans custody.issued
  have live : registry.live.entries = ledger.filter fun entry => registry.isLive entry.1 := by
    rw [custody.live]
    exact List.filter_congr fun entry _ => by simp [← custody.isLive_iff]
  refine ⟨custody.distinct, fun id => custody.isLive_iff, balanced, once, ?_, fun surface kind => ?_,
    fun target => ?_⟩
  · have lengths := once.length_eq
    rw [List.length_append, List.length_map, ← Table.size_eq_length_keys] at lengths
    have size : registry.size = registry.live.size := rfl
    omega
  · rw [Registry.listeners, live, List.filter_filter]
    simp only [Bool.and_comm]
  · rw [Registry.countFor, Table.countP_values, live, List.filter_filter,
      ← List.countP_eq_length_filter]
    simp only [Bool.and_comm]

/-- **Registrations follow their handles.** Whatever a holder does with listeners, they are numbered
`1, 2, 3, …`; while there is a registry, its registrations are live exactly while they are held, alone or
in a set, and the others ended once; and once it is gone, the listeners that are left can be given up in
any order, with the same effect as if it were still there. -/
theorem registrations_follow_their_handles (operations : List HandleOp) :
    let handles := ({} : Handles).run operations
    let ledger := ({} : Handles).ledger operations
    ledger.map Prod.fst = (List.range' 1 ledger.length).map ListenerId.mk ∧
      (∀ registry, handles.registry = some registry →
        handles.Agrees registry ledger (({} : Handles).endedAll operations)) ∧
      ∀ later, (handles.run (.dropRegistry :: later)).registry = none ∧
        handles.ledger (.dropRegistry :: later) = [] ∧
        ((∀ operation ∈ later, ¬ operation.registers) →
          handles.run (.dropRegistry :: later) = { handles.run later with registry := none }) := by
  have followed := followed_fresh.run operations
  rw [List.nil_append, List.nil_append] at followed
  refine ⟨followed.numbered, fun registry there => followed.agrees there, fun later => ?_⟩
  have dropped : ((({} : Handles).run operations).step .dropRegistry).registry = none := rfl
  obtain ⟨lost, silent⟩ := run_unregistered dropped later
  refine ⟨lost, ?_, run_without_registry⟩
  have nothing : (({} : Handles).run operations).enrolled .dropRegistry = [] := by
    unfold enrolled
    cases (({} : Handles).run operations).registry <;> rfl
  rw [Handles.ledger, silent, nothing, List.append_nil]

/-- A holder that pushes a listener into a set that is released twice, overwrites a name and a set, and
gives up what it never had. -/
def juggling : List HandleOp :=
  [ .subscribe "tip" ⟨⟨7⟩, .commit, .popup ⟨1⟩⟩, .install "view" ⟨7⟩ (.view ⟨1⟩) [.commit, .map],
    .subscribe "tip" ⟨⟨7⟩, .commit, .popup ⟨2⟩⟩, .push "spare" "tip", .drop "tip", .push "view" "tip",
    .subscribe "tip" ⟨⟨7⟩, .commit, .view ⟨2⟩⟩, .release "spare", .release "spare",
    .install "spare" ⟨8⟩ (.popup ⟨2⟩) [.destroy], .dropSet "spare" ]

/-- Three of its six registrations are left. They can be given up without the registry as well. -/
theorem registrations_follow_their_handles_juggling :
    ∃ registry, (({} : Handles).run juggling).registry = some registry ∧
      (({} : Handles).ledger juggling).map Prod.fst = [⟨1⟩, ⟨2⟩, ⟨3⟩, ⟨4⟩, ⟨5⟩, ⟨6⟩] ∧
      registry.released = 3 ∧ ¬ registry.isLive ⟨4⟩ ∧
      registry.listeners ⟨7⟩ .commit = [(⟨2⟩, .view ⟨1⟩), (⟨5⟩, .view ⟨2⟩)] ∧
      ((({} : Handles).run juggling).run
        [.dropRegistry, .release "view", .drop "tip", .release "view"]).allHeld = [] := by
  obtain ⟨numbered, agree, outlives⟩ := registrations_follow_their_handles juggling
  obtain ⟨-, live, -, -, released, -, -⟩ := agree _ rfl
  refine ⟨_, rfl, numbered, released, (live ⟨4⟩).not.mpr (by decide), by decide, ?_⟩
  rw [(outlives [.release "view", .drop "tip", .release "view"]).2.2 (by decide)]
  decide

end Handles

end WindowShell
