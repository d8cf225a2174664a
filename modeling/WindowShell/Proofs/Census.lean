/-
**Counting what belongs to a shell.**

Where records and registry agree, the live registrations are one for each signal of each view and of
each popup. Where views and popups are linked as well, every popup is listed by exactly one view. So
a report, which only looks at the views and what they list, expects as many listeners as are live:

* `live_perm`: the live registrations, view by view and popup by popup;
* `listed_perm`: the popups, view by view;
* `reached_orderly`: the structure of every shell that few enough acts lead to, and of every report.
-/

import WindowShell.Proofs.Structure

namespace WindowShell

namespace Shell

/-- One registration for each signal of each view and of each popup. -/
def dueRegistrations (shell : Shell) : List Registration :=
  (shell.views.entries.flatMap fun entry =>
      registrations entry.2.surface (.view entry.1) viewSignals) ++
    shell.popups.entries.flatMap fun entry =>
      registrations entry.2.surface (.popup entry.1) popupSignals

/-- **The structure of a shell.** -/
structure Orderly (shell : Shell) : Prop where
  /-- Every surface has a role. -/
  roled : shell.Roled
  /-- A view wraps a window. -/
  views : ∀ id view, shell.views.get? id = some view →
    ∃ surface, shell.surfaces.get? view.surface = some surface ∧ surface.isToplevel
  /-- A popup record wraps a popup. -/
  popups : ∀ id popup, shell.popups.get? id = some popup →
    ∃ surface, shell.surfaces.get? popup.surface = some surface ∧ surface.isPopup
  /-- No surface has two views. -/
  viewsApart : ∀ id other view record, shell.views.get? id = some view →
    shell.views.get? other = some record → view.surface = record.surface → id = other
  /-- No surface has two popup records. -/
  popupsApart : ∀ id other popup record, shell.popups.get? id = some popup →
    shell.popups.get? other = some record → popup.surface = record.surface → id = other
  /-- No surface has a view and a popup record. -/
  apart : ∀ id other view popup, shell.views.get? id = some view →
    shell.popups.get? other = some popup → view.surface ≠ popup.surface
  /-- A popup belongs to a view that lists it exactly once. -/
  attached : ∀ id popup, shell.popups.get? id = some popup →
    ∃ view, shell.views.get? popup.view = some view ∧ view.popups.count id = 1
  /-- A view lists popups of its own. -/
  listed : ∀ id view popup, shell.views.get? id = some view → popup ∈ view.popups →
    ∃ record, shell.popups.get? popup = some record ∧ record.view = id
  /-- The live registrations are one for each signal of each view and popup. -/
  live : shell.registry.live.values.Perm shell.dueRegistrations

/-! ### The live registrations -/

/-- Different keys give different targets, and so different registrations. -/
theorem nodup_dueRegistrations_of {κ α : Type} (table : Table κ α) (surface : α → SurfaceId)
    (target : κ → ListenerTarget) (injective : ∀ first second, target first = target second →
      first = second) (kinds : List SignalKind) (distinct : kinds.Nodup) :
    (table.entries.flatMap fun entry =>
      registrations (surface entry.2) (target entry.1) kinds).Nodup := by
  refine List.nodup_flatMap.mpr ⟨fun entry _ =>
    distinct.map fun _ _ same => congrArg Registration.kind same, ?_⟩
  refine (List.pairwise_map.mp table.distinct).imp fun differ registration first second => ?_
  exact differ (injective _ _ ((mem_registrations.mp first).2.2.symm.trans
    (mem_registrations.mp second).2.2))

theorem nodup_dueRegistrations (shell : Shell) : shell.dueRegistrations.Nodup := by
  refine List.nodup_append.mpr
    ⟨nodup_dueRegistrations_of shell.views View.surface .view (fun _ _ => ListenerTarget.view.inj)
        viewSignals (nodup_signals (.view ⟨0⟩)),
      nodup_dueRegistrations_of shell.popups Popup.surface .popup
        (fun _ _ => ListenerTarget.popup.inj) popupSignals (nodup_signals (.popup ⟨0⟩)), ?_⟩
  rintro first inViews second inPopups rfl
  obtain ⟨view, -, ofView⟩ := List.mem_flatMap.mp inViews
  obtain ⟨popup, -, ofPopup⟩ := List.mem_flatMap.mp inPopups
  cases (mem_registrations.mp ofView).2.2.symm.trans (mem_registrations.mp ofPopup).2.2

theorem mem_dueRegistrations {shell : Shell} {registration : Registration} :
    registration ∈ shell.dueRegistrations ↔
      ∃ wrapping, shell.wrapping? registration.target = some wrapping ∧ registration ∈
        registrations wrapping.surface registration.target registration.target.signals := by
  rw [dueRegistrations, List.mem_append, List.mem_flatMap, List.mem_flatMap]
  constructor
  · rintro (⟨⟨id, view⟩, member, due⟩ | ⟨⟨id, popup⟩, member, due⟩)
    · have target := (mem_registrations.mp due).2.2
      rw [target]
      exact ⟨view.wrapping, by rw [wrapping?, Table.get?_eq_some_iff.mpr member]; rfl, due⟩
    · have target := (mem_registrations.mp due).2.2
      rw [target]
      exact ⟨popup.wrapping, by rw [wrapping?, Table.get?_eq_some_iff.mpr member]; rfl, due⟩
  · rintro ⟨wrapping, found, due⟩
    cases target : registration.target with
    | view id =>
      rw [target] at found due
      obtain ⟨view, there, rfl⟩ := Option.map_eq_some_iff.mp found
      exact .inl ⟨(id, view), Table.get?_eq_some_iff.mp there, due⟩
    | popup id =>
      rw [target] at found due
      obtain ⟨popup, there, rfl⟩ := Option.map_eq_some_iff.mp found
      exact .inr ⟨(id, popup), Table.get?_eq_some_iff.mp there, due⟩

/-- No registration was made twice. -/
theorem Held.nodup_values {shell : Shell} (held : shell.Held) :
    shell.registry.live.values.Nodup := by
  have entries : shell.registry.live.entries.Nodup := .of_map _ shell.registry.live.distinct
  refine entries.map_on ?_
  rintro ⟨first, registration⟩ inFirst ⟨second, _⟩ inSecond rfl
  have one := (held.holders.live _ _).mp (Table.get?_eq_some_iff.mpr inFirst)
  have two := (held.holders.live _ _).mp (Table.get?_eq_some_iff.mpr inSecond)
  obtain ⟨wrapping, found, -⟩ := mem_holdings one
  rw [holdings_of_wrapping? found] at one two
  rw [eq_of_mem_zip (nodup_registrations _ _) one two]

/-- **The live registrations**, view by view and popup by popup. -/
theorem Held.live_perm {shell : Shell} (held : shell.Held) :
    shell.registry.live.values.Perm shell.dueRegistrations := by
  refine (List.perm_ext_iff_of_nodup held.nodup_values (nodup_dueRegistrations shell)).mpr
    fun registration => ?_
  rw [mem_dueRegistrations]
  constructor
  · intro member
    obtain ⟨⟨id, _⟩, inside, rfl⟩ := List.mem_map.mp member
    exact mem_holdings ((held.holders.live _ _).mp (Table.get?_eq_some_iff.mpr inside))
  · rintro ⟨wrapping, found, due⟩
    obtain ⟨id, member⟩ := exists_mem_zip
      (by simpa using held.full registration.target wrapping found) due
    rw [← holdings_of_wrapping? found] at member
    exact List.mem_map_of_mem (Table.get?_eq_some_iff.mp (held.holders.live_of_mem member))

/-- There are as many live registrations as are due. -/
theorem Held.size_registry {shell : Shell} (held : shell.Held) :
    shell.registry.size = shell.dueRegistrations.length := by
  rw [← held.live_perm.length_eq, Registry.size, Table.size, Table.values, List.length_map]

/-! ### Popups, view by view -/

theorem Linked.nodup_popups {count : Nat} {shell : Shell} (linked : Linked count shell) {id : ViewId}
    {view : View} (found : shell.views.get? id = some view) : view.popups.Nodup := by
  refine List.nodup_iff_count_eq_one.mpr fun popup member => ?_
  obtain ⟨record, listed, rfl⟩ := linked.listed id view popup found member
  obtain ⟨owner, owns, once⟩ := linked.attached popup record listed
  obtain rfl := Option.some.inj (found.symm.trans owns)
  exact once

/-- Every popup is listed by exactly one view. -/
theorem Linked.listed_perm {count : Nat} {shell : Shell} (linked : Linked count shell) :
    (shell.views.entries.flatMap fun entry => entry.2.popups).Perm shell.popups.keys := by
  have distinct : (shell.views.entries.flatMap fun entry => entry.2.popups).Nodup := by
    refine List.nodup_flatMap.mpr ⟨fun entry member =>
      linked.nodup_popups (Table.get?_eq_some_iff.mpr member), ?_⟩
    refine (List.pairwise_map.mp shell.views.distinct).imp_of_mem
      fun {first second} inFirst inSecond differ popup one two => ?_
    obtain ⟨record, present, mine⟩ :=
      linked.listed first.1 first.2 popup (Table.get?_eq_some_iff.mpr inFirst) one
    obtain ⟨also, same, yours⟩ :=
      linked.listed second.1 second.2 popup (Table.get?_eq_some_iff.mpr inSecond) two
    obtain rfl := Option.some.inj (present.symm.trans same)
    exact differ (mine.symm.trans yours)
  refine (List.perm_ext_iff_of_nodup distinct shell.popups.keys_nodup).mpr fun popup => ?_
  rw [List.mem_flatMap, ← Table.get?_isSome_iff]
  constructor
  · rintro ⟨entry, member, listed⟩
    obtain ⟨record, present, -⟩ :=
      linked.listed entry.1 entry.2 popup (Table.get?_eq_some_iff.mpr member) listed
    rw [present, Option.isSome_some]
  · intro present
    obtain ⟨record, found⟩ := Option.isSome_iff_exists.mp present
    obtain ⟨view, owns, once⟩ := linked.attached popup record found
    have listed : popup ∈ view.popups := List.count_pos_iff.mp (by omega)
    exact ⟨(record.view, view), Table.get?_eq_some_iff.mp owns, listed⟩

/-! ### The whole structure -/

/-- What holds of shells and of counted links gives the whole structure. -/
theorem Orderly.of {count : Nat} {shell : Shell} (roled : shell.Roled) (sound : shell.Sound)
    (linked : Linked count shell) : shell.Orderly where
  roled := roled
  views _ _ := sound.view_fits
  popups _ _ := sound.popup_fits
  viewsApart _ _ _ _ := sound.views_apart
  popupsApart _ _ _ _ := sound.popups_apart
  apart _ _ _ _ := sound.apart
  attached := linked.attached
  listed := linked.listed
  live := sound.held.live_perm

theorem length_flatMap_const {α β : Type} (list : List α) (each : α → List β) (length : Nat)
    (same : ∀ item ∈ list, (each item).length = length) :
    (list.flatMap each).length = list.length * length := by
  rw [List.length_flatMap, List.map_congr_left same, List.map_const', List.sum_replicate_nat]

theorem length_dueRegistrations (shell : Shell) :
    shell.dueRegistrations.length =
      shell.views.size * viewSignals.length + shell.popups.size * popupSignals.length := by
  rw [dueRegistrations, List.length_append,
    length_flatMap_const _ _ viewSignals.length fun _ _ => length_registrations _ _ _,
    length_flatMap_const _ _ popupSignals.length fun _ _ => length_registrations _ _ _]
  rfl

/-- A report shows every popup that a view lists. -/
theorem Linked.reported {count : Nat} {shell : Shell} (linked : Linked count shell) {id : ViewId}
    {view : View} (found : shell.views.get? id = some view) :
    (ViewReport.of shell id view).popups.length = view.popups.length := by
  rw [ViewReport.of, List.length_filterMap_eq_countP, List.countP_eq_length]
  intro popup member
  obtain ⟨record, present, -⟩ := linked.listed id view popup found member
  rw [PopupReport.of?, present, Option.map_some, Option.isSome_some]

/-- A report on a linked shell expects as many listeners as there are. -/
theorem report_listeners {count : Nat} {shell : Shell} (sound : shell.Sound)
    (linked : Linked count shell) (errors : List StepError) :
    (Report.of shell errors).listeners = (Report.of shell errors).expectedListeners := by
  have views : (Report.of shell errors).views.length = shell.views.size := List.length_map _
  have popups : ((Report.of shell errors).views.flatMap fun view => view.popups).length =
      shell.popups.size := by
    rw [Table.size_eq_length_keys, ← linked.listed_perm.length_eq, Report.of, List.flatMap_map,
      List.length_flatMap, List.length_flatMap]
    refine congrArg List.sum (List.map_congr_left fun entry member => ?_)
    exact linked.reported (Table.get?_eq_some_iff.mpr member)
  have live : (Report.of shell errors).listeners = shell.dueRegistrations.length :=
    sound.held.size_registry
  rw [live, length_dueRegistrations, Report.expectedListeners, views, popups]

/-- **The structure of a shell, and who listens.** In fewer acts than there are identifiers, no matter
which of them fail, every shell stays orderly. So the report on a scenario of that length shows as many
listeners as it expects. -/
theorem reached_orderly :
    (∀ count shell, Reached count shell → count < 2 ^ 32 - 1 → shell.Orderly) ∧
      ∀ (scenario : Scenario) (settings : Settings), scenario.steps.length < 2 ^ 32 - 1 →
        (scenario.replay settings).listeners =
          (scenario.replay settings).expectedListeners := by
  constructor
  · intro count shell reached short
    exact .of reached.roled reached.sound (reached.linked (by omega))
  · intro scenario settings short
    have reached := (Reached.start scenario settings).runFrom 0 scenario.steps
    exact report_listeners reached.sound (reached.linked (by omega)) _

/-- A window with a popup that has a popup of its own. A step in between is rejected. -/
def popupOfPopup : Scenario where
  steps :=
    [ .newToplevel ⟨1⟩, .newPopup ⟨2⟩ ⟨1⟩ {}, .newPopup ⟨2⟩ ⟨1⟩ {}, .newPopup ⟨3⟩ ⟨2⟩ {} ]

/-- Nine listeners of the view, and five of each popup. -/
theorem reached_orderly_popupOfPopup :
    ((popupOfPopup.start {}).runFrom 0 popupOfPopup.steps).1.Orderly ∧
      (popupOfPopup.replay {}).listeners = 19 :=
  ⟨reached_orderly.1 4 _ ((Reached.start popupOfPopup {}).runFrom 0 popupOfPopup.steps) (by decide),
    (reached_orderly.2 popupOfPopup {} (by decide)).trans rfl⟩

end Shell

end WindowShell
