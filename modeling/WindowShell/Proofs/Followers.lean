/-
**Who follows a surface.**

A surface has at most one follower, the view or popup that wraps it. The follower listens to every
signal it can do something about, and to each through one registration; nobody else listens there. So
a signal does to the shell what it does to the follower, once:

* `Sound.emit_followed`, `emit_unfollowed`: where a signal goes;
* `Sound.write`, `Sound.drop`: records come and go with their listeners.
-/

import Mathlib.Data.List.Nodup
import WindowShell.Proofs.Frame

namespace WindowShell

/-- A view wraps a window, and a popup record a popup. -/
def ListenerTarget.Fits : ListenerTarget → Role → Prop
  | view _, role => role.toplevel?.isSome
  | popup _, role => role.parent?.isSome

namespace Shell

/-- **Views and popups wrap surfaces soundly**: each holds its listeners, wraps an existing surface of
its kind, and is the only one to do so. -/
structure Sound (shell : Shell) : Prop where
  held : shell.Held
  /-- What is wrapped exists and has the right role. -/
  fits : ∀ target wrapping, shell.wrapping? target = some wrapping →
    ∃ role, shell.frame.roles wrapping.surface = some role ∧ target.Fits role
  /-- No surface is wrapped twice. -/
  alone : ∀ first second wrapping other, shell.wrapping? first = some wrapping →
    shell.wrapping? second = some other → wrapping.surface = other.surface → first = second

/-- Nothing wraps a surface. -/
def Unfollowed (shell : Shell) (surface : SurfaceId) : Prop :=
  ∀ target wrapping, shell.wrapping? target = some wrapping → wrapping.surface ≠ surface

/-- A view wraps a window. -/
theorem Sound.view_fits {shell : Shell} (sound : shell.Sound) {id : ViewId} {view : View}
    (found : shell.views.get? id = some view) :
    ∃ surface, shell.surfaces.get? view.surface = some surface ∧ surface.isToplevel := by
  obtain ⟨role, present, fits⟩ := sound.fits (.view id) view.wrapping (by rw [wrapping?, found]; rfl)
  obtain ⟨surface, there, rfl⟩ := Option.map_eq_some_iff.mp present
  exact ⟨surface, there, by rwa [ListenerTarget.Fits, Role.isSome_toplevel?_bare] at fits⟩

/-- A popup record wraps a popup. -/
theorem Sound.popup_fits {shell : Shell} (sound : shell.Sound) {id : PopupId} {popup : Popup}
    (found : shell.popups.get? id = some popup) :
    ∃ surface, shell.surfaces.get? popup.surface = some surface ∧ surface.isPopup := by
  obtain ⟨role, present, fits⟩ :=
    sound.fits (.popup id) popup.wrapping (by rw [wrapping?, found]; rfl)
  obtain ⟨surface, there, rfl⟩ := Option.map_eq_some_iff.mp present
  exact ⟨surface, there, by rwa [ListenerTarget.Fits, Role.parent?_bare] at fits⟩

/-- No surface has two views. -/
theorem Sound.views_apart {shell : Shell} (sound : shell.Sound) {first second : ViewId}
    {view other : View} (found : shell.views.get? first = some view)
    (there : shell.views.get? second = some other) (same : view.surface = other.surface) :
    first = second :=
  ListenerTarget.view.inj (sound.alone (.view first) (.view second) view.wrapping other.wrapping
    (by rw [wrapping?, found]; rfl) (by rw [wrapping?, there]; rfl) same)

/-- No surface has two popup records. -/
theorem Sound.popups_apart {shell : Shell} (sound : shell.Sound) {first second : PopupId}
    {popup other : Popup} (found : shell.popups.get? first = some popup)
    (there : shell.popups.get? second = some other) (same : popup.surface = other.surface) :
    first = second :=
  ListenerTarget.popup.inj (sound.alone (.popup first) (.popup second) popup.wrapping other.wrapping
    (by rw [wrapping?, found]; rfl) (by rw [wrapping?, there]; rfl) same)

/-- No surface has a view and a popup record. -/
theorem Sound.apart {shell : Shell} (sound : shell.Sound) {id : ViewId} {other : PopupId}
    {view : View} {popup : Popup} (found : shell.views.get? id = some view)
    (there : shell.popups.get? other = some popup) : view.surface ≠ popup.surface := by
  intro same
  cases sound.alone (.view id) (.popup other) view.wrapping popup.wrapping
    (by rw [wrapping?, found]; rfl) (by rw [wrapping?, there]; rfl) same

/-! ### Where a signal goes -/

theorem mem_listeners {registry : Registry} {surface : SurfaceId} {kind : SignalKind}
    {id : ListenerId} {target : ListenerTarget} :
    (id, target) ∈ registry.listeners surface kind ↔
      registry.live.get? id = some { surface, kind, target } := by
  simp only [Registry.listeners, List.mem_map, List.mem_filter, Bool.and_eq_true, decide_eq_true_eq,
    Prod.mk.injEq, Prod.exists, Table.get?_eq_some_iff]
  constructor
  · rintro ⟨_, ⟨surface, kind, target⟩, ⟨member, rfl, rfl⟩, rfl, rfl⟩
    exact member
  · exact fun member => ⟨id, _, ⟨member, rfl, rfl⟩, rfl, rfl⟩

theorem nodup_listeners (registry : Registry) (surface : SurfaceId) (kind : SignalKind) :
    (registry.listeners surface kind).Nodup := by
  refine List.Nodup.of_map Prod.fst ?_
  rw [Registry.listeners, List.map_map]
  exact registry.live.distinct.sublist (List.filter_sublist.map Prod.fst)

/-- In lists that run in parallel, different entries on the left face different ones on the right. -/
theorem eq_of_mem_zip {α β : Type} {left : List α} {right : List β} (distinct : right.Nodup)
    {first second : α} {value : β} (inFirst : (first, value) ∈ left.zip right)
    (inSecond : (second, value) ∈ left.zip right) : first = second := by
  obtain ⟨one, below, same⟩ := List.mem_iff_getElem.mp inFirst
  obtain ⟨two, under, equal⟩ := List.mem_iff_getElem.mp inSecond
  rw [List.getElem_zip, Prod.mk.injEq] at same equal
  have place := (distinct.getElem_inj_iff).mp (same.2.trans equal.2.symm)
  subst place
  exact same.1.symm.trans equal.1

theorem exists_mem_zip {α β : Type} {left : List α} {right : List β}
    (same : left.length = right.length) {value : β} (member : value ∈ right) :
    ∃ first, (first, value) ∈ left.zip right := by
  obtain ⟨place, below, rfl⟩ := List.mem_iff_getElem.mp member
  have under : place < (left.zip right).length := by simpa [same] using below
  exact ⟨left.get ⟨place, same ▸ below⟩, List.mem_iff_getElem.mpr ⟨place, under, List.getElem_zip⟩⟩

theorem nodup_signals (target : ListenerTarget) : target.signals.Nodup := by
  cases target with
  | view => exact (by decide : viewSignals.Nodup)
  | popup => exact (by decide : popupSignals.Nodup)

theorem nodup_registrations (surface : SurfaceId) (target : ListenerTarget) :
    (registrations surface target target.signals).Nodup :=
  (nodup_signals target).map fun _ _ same => congrArg Registration.kind same

/-- A view listens to everything. -/
theorem mem_viewSignals (kind : SignalKind) : kind ∈ viewSignals := by
  cases kind <;> decide

section Dispatch

variable {shell : Shell}

/-- Nobody listens to a surface that nothing wraps. -/
theorem emit_unfollowed (held : shell.Held) {surface : SurfaceId}
    (free : shell.Unfollowed surface) (signal : Signal) : shell.emit surface signal = shell := by
  have none : shell.registry.listeners surface signal.kind = [] := by
    refine List.eq_nil_iff_forall_not_mem.mpr ?_
    rintro ⟨id, target⟩ member
    have live := (held.holders.live _ _).mp (mem_listeners.mp member)
    obtain ⟨wrapping, found, heard⟩ := mem_holdings live
    exact free target wrapping found (mem_registrations.mp heard).1.symm
  rw [emit, none, List.foldl_nil]

/-- The listeners of a wrapped surface are those of its follower. -/
theorem Sound.mem_listeners_followed (sound : shell.Sound) {target : ListenerTarget}
    {wrapping : Wrapping} (found : shell.wrapping? target = some wrapping) {kind : SignalKind}
    {id : ListenerId} {hearer : ListenerTarget} :
    (id, hearer) ∈ shell.registry.listeners wrapping.surface kind ↔
      hearer = target ∧ (id, { surface := wrapping.surface, kind, target }) ∈
        wrapping.listeners.zip (registrations wrapping.surface target target.signals) := by
  rw [mem_listeners, sound.held.holders.live]
  constructor
  · intro member
    obtain ⟨other, there, heard⟩ := mem_holdings member
    obtain rfl := sound.alone _ _ _ _ found there (mem_registrations.mp heard).1
    rw [holdings_of_wrapping? found] at member
    exact ⟨rfl, member⟩
  · rintro ⟨rfl, member⟩
    rwa [holdings_of_wrapping? found]

/-- **A signal of a wrapped surface goes to its follower**, once. -/
theorem Sound.emit_followed (sound : shell.Sound) {target : ListenerTarget} {wrapping : Wrapping}
    (found : shell.wrapping? target = some wrapping) (signal : Signal) :
    shell.emit wrapping.surface signal = shell.deliver signal target := by
  by_cases heard : signal.kind ∈ target.signals
  · have heard' : ({ surface := wrapping.surface, kind := signal.kind, target } : Registration) ∈
        registrations wrapping.surface target target.signals :=
      mem_registrations.mpr ⟨rfl, heard, rfl⟩
    obtain ⟨id, member⟩ := exists_mem_zip
      (by simpa using sound.held.full target wrapping found) heard'
    have only : shell.registry.listeners wrapping.surface signal.kind = [(id, target)] := by
      refine List.perm_singleton.mp ((List.perm_ext_iff_of_nodup (nodup_listeners _ _ _)
        (List.nodup_singleton _)).mpr ?_)
      rintro ⟨other, hearer⟩
      rw [sound.mem_listeners_followed found, List.mem_singleton, Prod.mk.injEq, and_comm]
      refine and_congr_left fun same => ⟨fun also => ?_, fun same => same ▸ member⟩
      exact eq_of_mem_zip (nodup_registrations _ _) also member
    have live : shell.registry.isLive id := by
      have present := mem_listeners.mp (only ▸ List.mem_singleton_self (id, target))
      rw [Registry.isLive, Table.contains, present, Option.isSome_some]
    rw [emit, only, List.foldl_cons, List.foldl_nil, if_pos live]
  · have none : shell.registry.listeners wrapping.surface signal.kind = [] := by
      refine List.eq_nil_iff_forall_not_mem.mpr ?_
      rintro ⟨id, hearer⟩ member
      have mine := ((sound.mem_listeners_followed found).mp member).2
      exact heard (mem_registrations.mp (List.of_mem_zip mine).2).2.1
    rw [emit, none, List.foldl_nil]
    cases target with
    | view id => exact absurd (mem_viewSignals _) heard
    | popup id =>
      rw [deliver, deliverToPopup]
      split
      · rfl
      · cases signal with
        | requestMove | requestResize | requestMaximize | requestFullscreen => rfl
        | _ => exact absurd (by simp [ListenerTarget.signals, popupSignals, Signal.kind]) heard

end Dispatch

/-! ### Records that come and go -/

section Records

variable {before after : Shell}

/-- Changes outside the frame do not matter. -/
theorem Sound.congr (sound : before.Sound) (same : after.frame = before.frame) : after.Sound where
  held := sound.held.congr (congrArg Frame.registry same) (wrapping?_of_frame same)
  fits target wrapping found := by
    rw [same]
    exact sound.fits target wrapping (wrapping?_of_frame same target ▸ found)
  alone first second wrapping other found there :=
    sound.alone first second wrapping other (wrapping?_of_frame same first ▸ found)
      (wrapping?_of_frame same second ▸ there)

theorem Unfollowed.congr {surface : SurfaceId} (alone : before.Unfollowed surface)
    (same : after.frame = before.frame) : after.Unfollowed surface := by
  intro target wrapping found
  rw [wrapping?_of_frame same] at found
  exact alone target wrapping found

/-- A record that wraps another surface does not matter. -/
theorem Unfollowed.write {surface : SurfaceId} (alone : before.Unfollowed surface)
    {target : ListenerTarget} {written : Wrapping}
    (wrapping : ∀ other, after.wrapping? other =
      if other = target then some written else before.wrapping? other)
    (differ : written.surface ≠ surface) : after.Unfollowed surface := by
  intro other found there
  rw [wrapping] at there
  split at there
  · obtain rfl := Option.some.inj there
    exact differ
  · exact alone other found there

/-- A free surface is wrapped by a record that fits it. -/
theorem Sound.write (sound : before.Sound) {target : ListenerTarget} {surface : SurfaceId}
    (registry : after.registry =
      (before.registry.install surface target target.signals).1.releaseAll (before.owned target))
    (wrapping : ∀ other, after.wrapping? other =
      if other = target then
        some { surface, listeners := (before.registry.install surface target target.signals).2 }
      else before.wrapping? other)
    (roles : after.frame.roles = before.frame.roles) (free : before.Unfollowed surface)
    (fits : ∃ role, before.frame.roles surface = some role ∧ target.Fits role) : after.Sound where
  held := sound.held.write surface registry wrapping
  fits other found present := by
    rw [wrapping] at present
    rw [roles]
    split at present
    · next same =>
      subst same
      obtain rfl := Option.some.inj present
      exact fits
    · exact sound.fits other found present
  alone first second found other there also same := by
    rw [wrapping] at there also
    split at there <;> split at also
    · next one two => exact one.trans two.symm
    · obtain rfl := Option.some.inj there
      exact absurd same.symm (free second other also)
    · obtain rfl := Option.some.inj also
      exact absurd same (free first found there)
    · exact sound.alone first second found other there also same

/-- A record is forgotten. -/
theorem Sound.drop (sound : before.Sound) {target : ListenerTarget}
    (registry : after.registry = before.registry.releaseAll (before.owned target))
    (wrapping : ∀ other, after.wrapping? other =
      if other = target then none else before.wrapping? other)
    (roles : after.frame.roles = before.frame.roles) : after.Sound where
  held := sound.held.drop target registry wrapping
  fits other found present := by
    rw [wrapping] at present
    rw [roles]
    split at present
    · cases present
    · exact sound.fits other found present
  alone first second found other there also same := by
    rw [wrapping] at there also
    split at there
    · cases there
    · split at also
      · cases also
      · exact sound.alone first second found other there also same

end Records

end Shell

end WindowShell
