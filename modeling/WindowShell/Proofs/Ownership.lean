/-
**Who holds the listeners.**

A view or popup that is created installs one registration for each kind of signal it listens to, keeps
the numbers, and releases them when it is forgotten. An identifier that comes up again after the
counts have wrapped around replaces its record, and the listeners of the old record are released with
it. So a registration is live exactly while somebody holds it:

* `HeldBy.replace`: installing for a target and releasing what it held before leaves it holding the
  new registrations alone;
* `Held.write`, `Held.drop`: records and registry stay in step where a record comes or goes.
-/

import WindowShell.Proofs.Run

namespace WindowShell

/-- One registration for each kind of signal. -/
def registrations (surface : SurfaceId) (target : ListenerTarget) (kinds : List SignalKind) :
    List Registration :=
  kinds.map fun kind => { surface, kind, target }

@[simp] theorem length_registrations (surface : SurfaceId) (target : ListenerTarget)
    (kinds : List SignalKind) : (registrations surface target kinds).length = kinds.length := by
  simp [registrations]

theorem mem_registrations {surface : SurfaceId} {target : ListenerTarget} {kinds : List SignalKind}
    {registration : Registration} :
    registration ∈ registrations surface target kinds ↔
      registration.surface = surface ∧ registration.kind ∈ kinds ∧ registration.target = target := by
  simp only [registrations, List.mem_map]
  constructor
  · rintro ⟨kind, member, rfl⟩
    exact ⟨rfl, member, rfl⟩
  · rintro ⟨rfl, member, rfl⟩
    exact ⟨registration.kind, member, rfl⟩

namespace Registry

/-! ### Installing and releasing -/

section Install

variable (surface : SurfaceId) (target : ListenerTarget)

theorem length_install (registry : Registry) (kinds : List SignalKind) :
    (registry.install surface target kinds).2.length = kinds.length := by
  induction kinds generalizing registry with
  | nil => rfl
  | cons kind kinds ih => simp [install, ih]

theorem numbered_install {registry : Registry} (numbered : registry.Numbered)
    (kinds : List SignalKind) : (registry.install surface target kinds).1.Numbered := by
  induction kinds generalizing registry with
  | nil => exact numbered
  | cons kind kinds ih => exact ih (numbered_subscribe numbered _)

/-- The numbers of new registrations were not used before. -/
theorem install_new (registry : Registry) (kinds : List SignalKind) :
    ∀ id ∈ (registry.install surface target kinds).2, registry.issued < id.val := by
  induction kinds generalizing registry with
  | nil => simp [install]
  | cons kind kinds ih =>
    simp only [install, List.mem_cons]
    rintro id (rfl | later)
    · exact Nat.lt_succ_self _
    · exact Nat.lt_of_succ_lt (ih _ id later)

/-- Installing adds exactly the new registrations. -/
theorem install_live {registry : Registry} (numbered : registry.Numbered) (kinds : List SignalKind)
    (id : ListenerId) (registration : Registration) :
    (registry.install surface target kinds).1.live.get? id = some registration ↔
      registry.live.get? id = some registration ∨
        (id, registration) ∈ (registry.install surface target kinds).2.zip
          (registrations surface target kinds) := by
  induction kinds generalizing registry with
  | nil => simp [install]
  | cons kind kinds ih =>
    have fresh := Table.get?_eq_none_iff.mpr (not_mem_next numbered)
    simp only [install, ih (numbered_subscribe numbered _), subscribe_live, registrations,
      List.map_cons, List.zip_cons_cons, List.mem_cons, Prod.mk.injEq]
    by_cases next : id = ⟨registry.issued + 1⟩
    · subst next
      simp [fresh, subscribe, eq_comm]
    · simp [next, subscribe]

end Install

theorem releaseAll_live (registry : Registry) (ids : List ListenerId) (other : ListenerId) :
    (registry.releaseAll ids).live.get? other =
      if other ∈ ids then none else registry.live.get? other := by
  induction ids generalizing registry with
  | nil => simp [releaseAll]
  | cons id ids ih =>
    rw [releaseAll, List.foldl_cons, ← releaseAll, ih, release_live]
    by_cases same : other = id <;> by_cases later : other ∈ ids <;> simp [same, later]

theorem numbered_releaseAll {registry : Registry} (numbered : registry.Numbered)
    (ids : List ListenerId) : (registry.releaseAll ids).Numbered := by
  induction ids generalizing registry with
  | nil => exact numbered
  | cons id ids ih => exact ih (numbered_release numbered id)

/-! ### Holders -/

/-- What a listener's number stands for, for everything each target holds. -/
abbrev Holdings := ListenerTarget → List (ListenerId × Registration)

/-- **A registration is live exactly while its target holds it.** -/
structure HeldBy (registry : Registry) (holdings : Holdings) : Prop where
  numbered : registry.Numbered
  /-- A target holds registrations for itself. -/
  own : ∀ target id registration, (id, registration) ∈ holdings target →
    registration.target = target
  /-- The live registrations are those that are held. -/
  live : ∀ id registration, registry.live.get? id = some registration ↔
    (id, registration) ∈ holdings registration.target

theorem HeldBy.congr {registry : Registry} {first second : Holdings}
    (held : registry.HeldBy first) (same : ∀ target, second target = first target) :
    registry.HeldBy second := by
  rwa [show second = first from funext same]

theorem HeldBy.live_of_mem {registry : Registry} {holdings : Holdings}
    (held : registry.HeldBy holdings) {target : ListenerTarget} {id : ListenerId}
    {registration : Registration} (member : (id, registration) ∈ holdings target) :
    registry.live.get? id = some registration := by
  rw [held.live, held.own target id registration member]
  exact member

/-- **A target trades what it holds for new registrations.** -/
theorem HeldBy.replace {registry : Registry} {holdings : Holdings}
    (held : registry.HeldBy holdings) (surface : SurfaceId) (target : ListenerTarget)
    (kinds : List SignalKind) :
    ((registry.install surface target kinds).1.releaseAll ((holdings target).map Prod.fst)).HeldBy
      fun other =>
        if other = target then
          (registry.install surface target kinds).2.zip (registrations surface target kinds)
        else holdings other where
  numbered := numbered_releaseAll (numbered_install surface target held.numbered kinds) _
  own other id registration member := by
    split at member
    · next same =>
      rw [same]
      exact (mem_registrations.mp (List.of_mem_zip member).2).2.2
    · exact held.own other id registration member
  live id registration := by
    rw [releaseAll_live]
    by_cases same : registration.target = target
    · rw [if_pos same]
      constructor
      · intro live
        split at live
        · cases live
        · next kept =>
          rcases (install_live surface target held.numbered kinds id registration).mp live with
            old | new
          · rw [held.live, same] at old
            exact absurd (List.mem_map_of_mem old) kept
          · exact new
      · intro new
        have fresh := install_new surface target registry kinds id (List.of_mem_zip new).1
        have kept : id ∉ (holdings target).map Prod.fst := by
          intro old
          obtain ⟨⟨_, before⟩, member, rfl⟩ := List.mem_map.mp old
          have present := held.live_of_mem member
          have numbered := held.numbered _ (Table.get?_isSome_iff.mp (by rw [present]; rfl))
          exact absurd fresh (Nat.not_lt.mpr numbered)
        rw [if_neg kept, install_live surface target held.numbered]
        exact .inr new
    · rw [if_neg same]
      constructor
      · intro live
        split at live
        · cases live
        · rcases (install_live surface target held.numbered kinds id registration).mp live with
            old | new
          · exact (held.live id registration).mp old
          · exact absurd (mem_registrations.mp (List.of_mem_zip new).2).2.2 same
      · intro member
        have present := held.live_of_mem member
        have kept : id ∉ (holdings target).map Prod.fst := by
          intro old
          obtain ⟨⟨_, other⟩, taken, rfl⟩ := List.mem_map.mp old
          obtain rfl := Option.some.inj (present.symm.trans (held.live_of_mem taken))
          exact same (held.own target _ _ taken)
        rw [if_neg kept, install_live surface target held.numbered]
        exact .inl present

/-- A target that releases what it holds is left with nothing. -/
theorem HeldBy.release {registry : Registry} {holdings : Holdings}
    (held : registry.HeldBy holdings) (target : ListenerTarget) :
    (registry.releaseAll ((holdings target).map Prod.fst)).HeldBy
      fun other => if other = target then [] else holdings other :=
  held.replace ⟨0⟩ target []

end Registry

/-! ### Views and popups -/

/-- How a view or popup wraps its surface. -/
structure Wrapping where
  surface : SurfaceId
  /-- The listeners on it, one for each kind of signal, in order. -/
  listeners : List ListenerId

/-- How a view wraps its surface. -/
def View.wrapping (view : View) : Wrapping :=
  { surface := view.surface, listeners := view.listeners }

/-- How a popup wraps its surface. -/
def Popup.wrapping (popup : Popup) : Wrapping :=
  { surface := popup.surface, listeners := popup.listeners }

/-- The signals a view or popup listens to. -/
def ListenerTarget.signals : ListenerTarget → List SignalKind
  | view _ => viewSignals
  | popup _ => popupSignals

namespace Shell

/-- How a view or popup wraps its surface, if there is such a record. -/
def wrapping? (shell : Shell) : ListenerTarget → Option Wrapping
  | .view id => (shell.views.get? id).map View.wrapping
  | .popup id => (shell.popups.get? id).map Popup.wrapping

/-- The listeners of a view or popup; without a record there are none. -/
def owned (shell : Shell) (target : ListenerTarget) : List ListenerId :=
  ((shell.wrapping? target).map Wrapping.listeners).getD []

/-- What each view and each popup holds. -/
def holdings (shell : Shell) : Registry.Holdings := fun target =>
  ((shell.wrapping? target).map fun wrapping =>
    wrapping.listeners.zip (registrations wrapping.surface target target.signals)).getD []

/-- **Records and registry agree**: a registration is live exactly while a view or popup holds it, and
each holds one for every signal it listens to. -/
structure Held (shell : Shell) : Prop where
  /-- The live registrations are those that are held. -/
  holders : shell.registry.HeldBy shell.holdings
  /-- Views and popups listen to all their signals. -/
  full : ∀ target wrapping, shell.wrapping? target = some wrapping →
    wrapping.listeners.length = target.signals.length

theorem owned_view (shell : Shell) (id : ViewId) :
    shell.owned (.view id) = shell.viewListeners id := by
  rw [owned, wrapping?, viewListeners]
  cases shell.views.get? id <;> rfl

theorem owned_popup (shell : Shell) (id : PopupId) :
    shell.owned (.popup id) = shell.popupListeners id := by
  rw [owned, wrapping?, popupListeners]
  cases shell.popups.get? id <;> rfl

theorem holdings_of_wrapping? {shell : Shell} {target : ListenerTarget} {wrapping : Wrapping}
    (found : shell.wrapping? target = some wrapping) :
    shell.holdings target =
      wrapping.listeners.zip (registrations wrapping.surface target target.signals) := by
  rw [holdings, found, Option.map_some, Option.getD_some]

theorem holdings_of_none {shell : Shell} {target : ListenerTarget}
    (absent : shell.wrapping? target = none) : shell.holdings target = [] := by
  rw [holdings, absent, Option.map_none, Option.getD_none]

/-- Whatever is held is held by a record, and for one of its signals. -/
theorem mem_holdings {shell : Shell} {target : ListenerTarget} {id : ListenerId}
    {registration : Registration} (member : (id, registration) ∈ shell.holdings target) :
    ∃ wrapping, shell.wrapping? target = some wrapping ∧
      registration ∈ registrations wrapping.surface target target.signals := by
  cases found : shell.wrapping? target with
  | none =>
    rw [holdings_of_none found] at member
    cases member
  | some wrapping =>
    rw [holdings_of_wrapping? found] at member
    exact ⟨wrapping, rfl, (List.of_mem_zip member).2⟩

theorem map_fst_holdings {shell : Shell} (held : shell.Held) (target : ListenerTarget) :
    (shell.holdings target).map Prod.fst = shell.owned target := by
  cases found : shell.wrapping? target with
  | none => rw [holdings_of_none found, owned, found, Option.map_none, Option.getD_none, List.map_nil]
  | some wrapping =>
    rw [holdings_of_wrapping? found, owned, found, Option.map_some, Option.getD_some]
    exact List.map_fst_zip (by simp [held.full target wrapping found])

namespace Held

theorem fresh (settings : Settings) (seats : Table SeatId SeatMode) (refusals : Nat) :
    (fresh settings seats refusals).Held where
  holders :=
    { numbered := Registry.numbered_fresh
      own := fun target _ _ member => by cases target <;> cases member
      live := fun _ registration => by
        cases target : registration.target <;> simp [Shell.fresh, holdings, wrapping?] }
  full target _ found := by cases target <;> cases found

variable {before after : Shell}

/-- Changes of the rest of a shell do not matter. -/
theorem congr (held : before.Held) (registry : after.registry = before.registry)
    (wrapping : ∀ target, after.wrapping? target = before.wrapping? target) : after.Held where
  holders := by
    rw [registry]
    exact held.holders.congr fun target => by rw [holdings, wrapping, ← holdings]
  full target _ found := held.full target _ (wrapping target ▸ found)

/-- A record is written, and its new listeners take the place of the old ones. -/
theorem write (held : before.Held) {target : ListenerTarget} (surface : SurfaceId)
    (registry : after.registry =
      (before.registry.install surface target target.signals).1.releaseAll (before.owned target))
    (wrapping : ∀ other, after.wrapping? other =
      if other = target then
        some { surface, listeners := (before.registry.install surface target target.signals).2 }
      else before.wrapping? other) : after.Held where
  holders := by
    have traded := held.holders.replace surface target target.signals
    rw [map_fst_holdings held, ← registry] at traded
    refine traded.congr fun other => ?_
    split
    · next same =>
      subst same
      exact holdings_of_wrapping? (by rw [wrapping, if_pos rfl])
    · next differ => rw [holdings, wrapping, if_neg differ, ← holdings]
  full other found present := by
    rw [wrapping] at present
    split at present
    · next same =>
      subst same
      obtain rfl := Option.some.inj present
      exact Registry.length_install _ _ _ _
    · exact held.full other found present

/-- A record is forgotten, and its listeners are released. -/
theorem drop (held : before.Held) (target : ListenerTarget)
    (registry : after.registry = before.registry.releaseAll (before.owned target))
    (wrapping : ∀ other, after.wrapping? other =
      if other = target then none else before.wrapping? other) : after.Held where
  holders := by
    have released := held.holders.release target
    rw [map_fst_holdings held, ← registry] at released
    refine released.congr fun other => ?_
    split
    · next same =>
      subst same
      exact holdings_of_none (by rw [wrapping, if_pos rfl])
    · next differ => rw [holdings, wrapping, if_neg differ, ← holdings]
  full other found present := by
    rw [wrapping] at present
    split at present
    · cases present
    · exact held.full other found present

end Held

end Shell

end WindowShell
