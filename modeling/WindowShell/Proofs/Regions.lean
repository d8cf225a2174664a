/-
**Regions of a shell.**

A region is made up of surfaces and of the views that wrap windows among them, with the popup records of
these views. It is closed if no surface hangs across its border, and no view or popup record reaches
across. Whatever happens to a shell without anything being created happens in small changes, and each of
them stays in every closed region that it starts in:

* `Alike`, `Closed`: two shells look the same in a region, and a region is closed;
* `Thins`, `Closed.thins`: nothing is created, and so a closed region stays closed;
* `Touches`: only a region is touched, with what is posted and told on the way;
* `Within`: so it is, and nothing is created;
* `putSurface_within`, `changeView_within`, `changePopup_within`, `forgetPopup_within`,
  `forgetView_within`, `vanish_within`: the changes.
-/

import WindowShell.Proofs.Destruction

namespace WindowShell

namespace Registry

/-- A release takes registrations out of the order of the others. -/
theorem keys_release (registry : Registry) (id : ListenerId) :
    (registry.release id).live.keys.Sublist registry.live.keys := by
  unfold release
  split
  · rw [Table.keys_erase]
    exact List.filter_sublist
  · exact .refl _

theorem keys_releaseAll (registry : Registry) (ids : List ListenerId) :
    (registry.releaseAll ids).live.keys.Sublist registry.live.keys := by
  induction ids generalizing registry with
  | nil => exact .refl _
  | cons id ids ih => exact (ih (registry.release id)).trans (registry.keys_release id)

theorem issued_releaseAll (registry : Registry) (ids : List ListenerId) :
    (registry.releaseAll ids).issued = registry.issued := by
  induction ids generalizing registry with
  | nil => rfl
  | cons id ids ih =>
    refine (ih (registry.release id)).trans ?_
    unfold release
    split <;> rfl

end Registry

/-- **A region**: some surfaces, and the views that belong to them. -/
structure Region where
  surfaces : SurfaceId → Prop
  views : ViewId → Prop

/-- What is outside a region. -/
def Region.rest (region : Region) : Region where
  surfaces id := ¬ region.surfaces id
  views id := ¬ region.views id

/-- What is outside of the outside is the region again. -/
theorem Region.rest_rest (region : Region) : region.rest.rest = region := by
  show Region.mk (fun id => ¬ ¬ region.surfaces id) (fun id => ¬ ¬ region.views id) = region
  simp only [not_not]

namespace Shell

/-- **Two shells look the same in a region**: the same surfaces, the same records of its views, and the
same popup records that name these views. -/
structure Alike (region : Region) (first second : Shell) : Prop where
  surfaces : ∀ id, region.surfaces id → first.surfaces.get? id = second.surfaces.get? id
  views : ∀ id, region.views id → first.views.get? id = second.views.get? id
  popups : ∀ id record, region.views record.view →
    (first.popups.get? id = some record ↔ second.popups.get? id = some record)

/-- A view or popup record is in a region. -/
def Houses (shell : Shell) (region : Region) : ListenerTarget → Prop
  | .view id => region.views id
  | .popup id => ∃ record, shell.popups.get? id = some record ∧ region.views record.view

/-- **A region is closed**: what wraps one of its surfaces belongs to it, and no surface hangs across its
border. -/
structure Closed (region : Region) (shell : Shell) : Prop where
  views : ∀ id record, shell.views.get? id = some record →
    (region.surfaces record.surface ↔ region.views id)
  popups : ∀ id record, shell.popups.get? id = some record →
    (region.surfaces record.surface ↔ region.views record.view)
  children : ∀ child parent, shell.Child child parent →
    (region.surfaces child ↔ region.surfaces parent)

/-- **From one shell to another nothing is created.** Surfaces, views and popup records may go, and those
that stay keep their place, their role and what they wrap. -/
structure Thins (before after : Shell) : Prop where
  roles : ∀ id role, after.frame.roles id = some role → before.frame.roles id = some role
  views : ∀ id record, after.views.get? id = some record →
    ∃ old, before.views.get? id = some old ∧ old.surface = record.surface
  popups : ∀ id record, after.popups.get? id = some record →
    ∃ old, before.popups.get? id = some old ∧ old.surface = record.surface ∧ old.view = record.view
  surfaceOrder : after.surfaces.keys.Sublist before.surfaces.keys
  viewOrder : after.views.keys.Sublist before.views.keys
  popupOrder : after.popups.keys.Sublist before.popups.keys
  liveOrder : after.registry.live.keys.Sublist before.registry.live.keys
  issued : after.registry.issued = before.registry.issued
  lastPopup : after.lastPopup = before.lastPopup
  settings : after.settings = before.settings
  seats : after.desktop.seats = before.desktop.seats
  lastView : after.desktop.lastView = before.desktop.lastView
  refusals : after.desktop.refusals = before.desktop.refusals

/-- **From one shell to another only a region is touched**: the rest looks the same, and what is posted
and told concerns the region. -/
structure Touches (region : Region) (messages : List Message) (events : List Event)
    (before after : Shell) : Prop where
  rest : Alike region.rest before after
  outbox : after.outbox = before.outbox ++ messages
  log : after.desktop.events = before.desktop.events ++ events
  addressed : ∀ message ∈ messages, region.surfaces message.surface
  named : ∀ event ∈ events, region.views event.view

/-- **One shell becomes another within a region**: only the region is touched, and nothing is created. -/
structure Within (region : Region) (messages : List Message) (events : List Event)
    (before after : Shell) : Prop extends Touches region messages events before after where
  thins : Thins before after
  moves : Moves 0 before after

/-! ### Looking the same -/

section Looks

variable {region : Region} {first second third : Shell}

namespace Alike

theorem refl (region : Region) (shell : Shell) : Alike region shell shell :=
  ⟨fun _ _ => rfl, fun _ _ => rfl, fun _ _ _ => .rfl⟩

theorem symm (alike : Alike region first second) : Alike region second first where
  surfaces id inside := (alike.surfaces id inside).symm
  views id inside := (alike.views id inside).symm
  popups id record inside := (alike.popups id record inside).symm

theorem trans (early : Alike region first second) (late : Alike region second third) :
    Alike region first third where
  surfaces id inside := (early.surfaces id inside).trans (late.surfaces id inside)
  views id inside := (early.views id inside).trans (late.views id inside)
  popups id record inside := (early.popups id record inside).trans (late.popups id record inside)

/-- What is in a region wraps the same surface through the same listeners. -/
theorem wrapping? (alike : Alike region first second) {target : ListenerTarget}
    (inside : first.Houses region target) : first.wrapping? target = second.wrapping? target := by
  cases target with
  | view id => rw [Shell.wrapping?, Shell.wrapping?, alike.views id inside]
  | popup id =>
    obtain ⟨record, found, inside⟩ := inside
    rw [Shell.wrapping?, Shell.wrapping?, found, (alike.popups id record inside).mp found]

/-- What listens for a view or popup of a region is the same. -/
theorem registrations (alike : Alike region first second) (held : first.Held) (also : second.Held)
    {listener : ListenerId} {registration : Registration}
    (inside : first.Houses region registration.target) :
    first.registry.live.get? listener = some registration ↔
      second.registry.live.get? listener = some registration := by
  rw [held.holders.live, also.holders.live, holdings, holdings, alike.wrapping? inside]

end Alike

end Looks

/-! ### Nothing is created -/

section Thinning

variable {region : Region} {before after first second third : Shell} {id : SurfaceId}

namespace Thins

/-- A change outside the frame that keeps every key. -/
theorem of_frame (same : after.frame = before.frame)
    (surfaces : after.surfaces.keys = before.surfaces.keys)
    (views : after.views.keys = before.views.keys) (popups : after.popups.keys = before.popups.keys)
    (settings : after.settings = before.settings) (seats : after.desktop.seats = before.desktop.seats)
    (refusals : after.desktop.refusals = before.desktop.refusals) : Thins before after where
  roles id role found := by rwa [same] at found
  views id record found := by
    obtain ⟨old, there, core⟩ := view_of_frame same found
    exact ⟨old, there, View.surface_of_core core⟩
  popups id record found := by
    obtain ⟨old, there, core⟩ := popup_of_frame same found
    exact ⟨old, there, Popup.surface_of_core core, Popup.view_of_core core⟩
  surfaceOrder := surfaces ▸ List.Sublist.refl _
  viewOrder := views ▸ List.Sublist.refl _
  popupOrder := popups ▸ List.Sublist.refl _
  liveOrder := by
    rw [show after.registry = before.registry from congrArg Frame.registry same]
  issued := congrArg Registry.issued (congrArg Frame.registry same)
  lastPopup := lastPopup_of_frame same
  settings := settings
  seats := seats
  lastView := lastView_of_frame same
  refusals := refusals

theorem refl (shell : Shell) : Thins shell shell := of_frame rfl rfl rfl rfl rfl rfl rfl

theorem trans (early : Thins first second) (late : Thins second third) : Thins first third where
  roles id role found := early.roles id role (late.roles id role found)
  views id record found := by
    obtain ⟨old, there, same⟩ := late.views id record found
    obtain ⟨older, before, also⟩ := early.views id old there
    exact ⟨older, before, also.trans same⟩
  popups id record found := by
    obtain ⟨old, there, same, view⟩ := late.popups id record found
    obtain ⟨older, before, also, first⟩ := early.popups id old there
    exact ⟨older, before, also.trans same, first.trans view⟩
  surfaceOrder := late.surfaceOrder.trans early.surfaceOrder
  viewOrder := late.viewOrder.trans early.viewOrder
  popupOrder := late.popupOrder.trans early.popupOrder
  liveOrder := late.liveOrder.trans early.liveOrder
  issued := late.issued.trans early.issued
  lastPopup := late.lastPopup.trans early.lastPopup
  settings := late.settings.trans early.settings
  seats := late.seats.trans early.seats
  lastView := late.lastView.trans early.lastView
  refusals := late.refusals.trans early.refusals

/-- A surface that is left had its role before. -/
theorem surface (thins : Thins before after) {surface : Surface}
    (found : after.surfaces.get? id = some surface) :
    ∃ old, before.surfaces.get? id = some old ∧ old.role.bare = surface.role.bare := by
  have roles := thins.roles id surface.role.bare (by rw [roles_frame, found, Option.map_some])
  rw [roles_frame, Option.map_eq_some_iff] at roles
  exact roles

theorem child (thins : Thins before after) {parent : SurfaceId} (hangs : after.Child id parent) :
    before.Child id parent := by
  obtain ⟨surface, found, above⟩ := hangs
  obtain ⟨old, there, bare⟩ := thins.surface found
  exact ⟨old, there, by rw [← Role.parent?_bare, bare, Role.parent?_bare, above]⟩

theorem below (thins : Thins before after) {root : SurfaceId} (below : after.Below id root) :
    before.Below id root :=
  Relation.ReflTransGen.mono (fun _ _ => thins.child) _ _ below

/-- Who wraps a surface wrapped it before. -/
theorem wrapping (thins : Thins before after) {target : ListenerTarget} {wrapping : Wrapping}
    (found : after.wrapping? target = some wrapping) :
    ∃ old, before.wrapping? target = some old ∧ old.surface = wrapping.surface := by
  cases target with
  | view view =>
    obtain ⟨record, live, rfl⟩ := Option.map_eq_some_iff.mp found
    obtain ⟨old, there, same⟩ := thins.views view record live
    exact ⟨old.wrapping, by rw [wrapping?, there, Option.map_some], same⟩
  | popup popup =>
    obtain ⟨record, there, rfl⟩ := Option.map_eq_some_iff.mp found
    obtain ⟨old, present, same, -⟩ := thins.popups popup record there
    exact ⟨old.wrapping, by rw [wrapping?, present, Option.map_some], same⟩

theorem unfollowed (thins : Thins before after) (alone : before.Unfollowed id) :
    after.Unfollowed id := by
  intro target wrapping found
  obtain ⟨old, there, same⟩ := thins.wrapping found
  exact fun wraps => alone target old there (same.trans wraps)

end Thins

/-- A popup that is forgotten changes no place, role or wrapping. -/
theorem forgetPopup_thins (shell : Shell) (popup : PopupId) :
    Thins shell (shell.forgetPopup popup) := by
  cases found : shell.popups.get? popup with
  | none =>
    rw [forgetPopup_of_none shell found]
    exact .refl shell
  | some record =>
    rw [forgetPopup_of_some shell found]
    refine ⟨fun _ _ there => there, fun id view there => ?_, fun id kept there => ?_, .refl _, ?_, ?_, ?_,
      ?_, rfl, rfl, rfl, rfl, rfl⟩
    · simp only [Table.get?_modify] at there
      split at there
      · obtain ⟨old, live, rfl⟩ := Option.map_eq_some_iff.mp there
        exact ⟨old, live, rfl⟩
      · exact ⟨view, there, rfl⟩
    · simp only [Table.get?_erase] at there
      split at there
      · cases there
      · exact ⟨kept, there, rfl, rfl⟩
    · rw [Table.keys_modify]
    · rw [Table.keys_erase]
      exact List.filter_sublist
    · exact Registry.keys_releaseAll _ _
    · exact Registry.issued_releaseAll _ _

theorem dropView_thins (shell : Shell) (view : ViewId) : Thins shell (shell.dropView view) := by
  refine ⟨fun _ _ there => there, fun id record there => ?_, fun _ kept there => ⟨kept, there, rfl, rfl⟩,
    .refl _, ?_, .refl _, Registry.keys_releaseAll _ _, Registry.issued_releaseAll _ _, rfl, rfl, rfl, rfl,
    rfl⟩
  · rw [dropView, Table.get?_erase] at there
    split at there
    · cases there
    · exact ⟨record, there, rfl⟩
  · rw [dropView, Table.keys_erase]
    exact List.filter_sublist

theorem forgetView_thins (shell : Shell) (view : ViewId) : Thins shell (shell.forgetView view) := by
  have popups : ∀ (ids : List PopupId) (shell : Shell), Thins shell (ids.foldl forgetPopup shell) := by
    intro ids
    induction ids with
    | nil => exact .refl
    | cons id ids ih => exact fun shell => (forgetPopup_thins shell id).trans (ih _)
  cases found : shell.views.get? view with
  | none =>
    rw [forgetView_of_none shell found]
    exact .refl shell
  | some record =>
    rw [forgetView_of_some shell found]
    exact (dropView_thins shell view).trans (popups _ _)

theorem vanish_thins (shell : Shell) (id : SurfaceId) :
    Thins shell { shell with surfaces := shell.surfaces.erase id } := by
  refine ⟨fun other role there => ?_, fun _ record there => ⟨record, there, rfl⟩,
    fun _ kept there => ⟨kept, there, rfl, rfl⟩, ?_, .refl _, .refl _, .refl _, rfl, rfl, rfl, rfl, rfl,
    rfl⟩
  · simp only [roles_frame, Table.get?_erase] at there ⊢
    split at there
    · cases there
    · exact there
  · rw [Table.keys_erase]
    exact List.filter_sublist

/-- **A closed region stays closed** where nothing is created. -/
theorem Closed.thins (closed : Closed region before) (thins : Thins before after) :
    Closed region after where
  views id record found := by
    obtain ⟨old, there, same⟩ := thins.views id record found
    rw [← same]
    exact closed.views id old there
  popups id record found := by
    obtain ⟨old, there, same, view⟩ := thins.popups id record found
    rw [← same, ← view]
    exact closed.popups id old there
  children child parent hangs := closed.children child parent (thins.child hangs)

/-- What wraps a surface of a closed region is in the region. -/
theorem Closed.houses (closed : Closed region before) {target : ListenerTarget} {wrapping : Wrapping}
    (found : before.wrapping? target = some wrapping) (inside : region.surfaces wrapping.surface) :
    before.Houses region target := by
  cases target with
  | view id =>
    obtain ⟨record, live, rfl⟩ := Option.map_eq_some_iff.mp found
    exact (closed.views id record live).mp inside
  | popup id =>
    obtain ⟨record, there, rfl⟩ := Option.map_eq_some_iff.mp found
    exact ⟨record, there, (closed.popups id record there).mp inside⟩

/-- What is outside a closed region is closed as well. -/
theorem Closed.rest (closed : Closed region before) : Closed region.rest before where
  views id record found := not_congr (closed.views id record found)
  popups id record found := not_congr (closed.popups id record found)
  children child parent hangs := not_congr (closed.children child parent hangs)

end Thinning

/-! ### Changes within a region -/

section Changes

variable {region : Region} {before shell first second third : Shell} {count : Nat} {id : SurfaceId}
  {view : ViewId} {popup : PopupId} {messages more : List Message} {events further : List Event}

namespace Touches

theorem refl (region : Region) (shell : Shell) : Touches region [] [] shell shell where
  rest := .refl _ _
  outbox := (List.append_nil _).symm
  log := (List.append_nil _).symm
  addressed := nofun
  named := nofun

theorem trans (early : Touches region messages events first second)
    (late : Touches region more further second third) :
    Touches region (messages ++ more) (events ++ further) first third where
  rest := early.rest.trans late.rest
  outbox := by rw [late.outbox, early.outbox, List.append_assoc]
  log := by rw [late.log, early.log, List.append_assoc]
  addressed message member :=
    (List.mem_append.mp member).elim (early.addressed message) (late.addressed message)
  named event member := (List.mem_append.mp member).elim (early.named event) (late.named event)

/-- A change that posts nothing and tells nothing. -/
theorem silent {after : Shell} (rest : Alike region.rest before after)
    (outbox : after.outbox = before.outbox) (log : after.desktop.events = before.desktop.events) :
    Touches region [] [] before after where
  rest := rest
  outbox := outbox.trans (List.append_nil _).symm
  log := log.trans (List.append_nil _).symm
  addressed := nofun
  named := nofun

end Touches

namespace Within

theorem refl (region : Region) (shell : Shell) : Within region [] [] shell shell :=
  ⟨.refl _ _, .refl _, .refl _⟩

theorem trans (early : Within region messages events first second)
    (late : Within region more further second third) :
    Within region (messages ++ more) (events ++ further) first third :=
  ⟨early.toTouches.trans late.toTouches, early.thins.trans late.thins, early.moves.trans late.moves⟩

end Within

/-- The desktop is told something about a view of the region. -/
theorem tell_within (shell : Shell) {event : Event} (about : region.views event.view) :
    Within region [] [event] shell (shell.tell event) where
  rest := ⟨fun _ _ => rfl, fun _ _ => rfl, fun _ _ _ => .rfl⟩
  thins := .of_frame rfl rfl rfl rfl rfl rfl rfl
  moves := .single (.alike rfl)
  outbox := (List.append_nil _).symm
  log := rfl
  addressed := nofun
  named other member := by rwa [List.mem_singleton.mp member]

/-- Messages are posted to surfaces of the region. -/
theorem post_within (shell : Shell) (serials : SerialCounter)
    (addressed : ∀ message ∈ messages, region.surfaces message.surface) :
    Within region messages [] shell (({ shell with serials } : Shell).send messages) where
  rest := ⟨fun _ _ => rfl, fun _ _ => rfl, fun _ _ _ => .rfl⟩
  thins := .of_frame rfl rfl rfl rfl rfl rfl rfl
  moves := .single (.alike rfl)
  outbox := rfl
  log := (List.append_nil _).symm
  addressed := addressed
  named := nofun

/-- A surface of the region is stored. -/
theorem putSurface_touches (shell : Shell) (surface : Surface) (inside : region.surfaces id) :
    Touches region [] [] shell (shell.putSurface id surface) := by
  refine .silent ⟨fun other outside => ?_, fun _ _ => rfl, fun _ _ _ => .rfl⟩ rfl rfl
  rw [putSurface, Table.get?_insert, if_neg]
  rintro rfl
  exact outside inside

/-- A surface of the region is stored, with the role that it has. -/
theorem putSurface_within {old surface : Surface} (present : shell.surfaces.get? id = some old)
    (same : surface.role.bare = old.role.bare) (inside : region.surfaces id) :
    Within region [] [] shell (shell.putSurface id surface) := by
  have frame := putSurface_frame shell present same
  have there : id ∈ shell.surfaces.keys :=
    Table.get?_isSome_iff.mp (by rw [present, Option.isSome_some])
  exact ⟨putSurface_touches shell surface inside,
    .of_frame frame (Table.keys_insert_of_mem there surface) rfl rfl rfl rfl rfl,
    .single (.alike frame)⟩

/-- The record of a view of the region changes, but not what the view wraps. -/
theorem changeView_within (shell : Shell) {change : View → View}
    (keeps : ∀ record, (change record).core = record.core) (inside : region.views view) :
    Within region [] [] shell (shell.changeView view change) := by
  have frame : (shell.changeView view change).frame = shell.frame := changeView_frame shell keeps
  refine ⟨.silent ⟨fun _ _ => rfl, fun other outside => ?_, fun _ _ _ => .rfl⟩ rfl rfl,
    .of_frame frame rfl (Table.keys_modify _ _ _) rfl rfl rfl rfl, .single (.alike frame)⟩
  rw [changeView, Table.get?_modify, if_neg]
  rintro rfl
  exact outside inside

/-- A popup record of the region changes, but not what it wraps. -/
theorem changePopup_within {record : Popup} {change : Popup → Popup}
    (found : shell.popups.get? popup = some record)
    (keeps : ∀ record, (change record).core = record.core) (inside : region.views record.view) :
    Within region [] [] shell (shell.changePopup popup change) := by
  have frame : (shell.changePopup popup change).frame = shell.frame := changePopup_frame shell keeps
  refine ⟨.silent ⟨fun _ _ => rfl, fun _ _ => rfl, fun other kept outside => ?_⟩ rfl rfl,
    .of_frame frame rfl rfl (Table.keys_modify _ _ _) rfl rfl rfl, .single (.alike frame)⟩
  rw [changePopup, Table.get?_modify]
  by_cases same : other = popup
  · subst same
    rw [if_pos rfl, found, Option.map_some, Option.some.injEq, Option.some.injEq]
    -- neither the old record nor the new one is outside
    constructor
    · rintro rfl
      exact absurd inside outside
    · rintro rfl
      rw [Region.rest, Popup.view_of_core (keeps record)] at outside
      exact absurd inside outside
  · rw [if_neg same]

/-- A popup of the region is forgotten. -/
theorem forgetPopup_within {record : Popup} (found : shell.popups.get? popup = some record)
    (inside : region.views record.view) : Within region [] [] shell (shell.forgetPopup popup) := by
  have thins := forgetPopup_thins shell popup
  have moves : Moves 0 shell (shell.forgetPopup popup) := .single (.forgetPopup popup)
  rw [forgetPopup_of_some shell found] at thins moves ⊢
  refine ⟨.silent ⟨fun _ _ => rfl, fun other outside => ?_, fun other kept outside => ?_⟩ rfl rfl,
    thins, moves⟩
  · rw [Table.get?_modify, if_neg]
    rintro rfl
    exact outside inside
  · rw [Table.get?_erase]
    split
    · next same =>
      rw [same, found, Option.some.injEq]
      constructor
      · rintro rfl
        exact absurd inside outside
      · intro absent
        cases absent
    · exact .rfl

/-- A view of the region is forgotten, with its popups. -/
theorem forgetView_within (linked : Linked count shell) (inside : region.views view) :
    Within region [] [] shell (shell.forgetView view) := by
  have client := forgetView_clientSide shell view
  refine ⟨.silent ⟨fun other _ => ?_, fun other outside => ?_, fun other kept outside => ?_⟩
    (outbox_of_clientSide client) (congrArg Desktop.events (forgetView_desktop shell view)),
    forgetView_thins shell view, .single (.forgetView view)⟩
  · rw [surfaces_of_clientSide client]
  · rw [linked.views_forgetView, if_neg]
    rintro rfl
    exact outside inside
  · rw [linked.popups_forgetView, Option.filter_eq_some_iff]
    refine ⟨fun found => ⟨found, ?_⟩, And.left⟩
    rw [decide_eq_true_eq]
    intro same
    rw [Region.rest, same] at outside
    exact outside inside

/-- A surface of the region is forgotten that nothing follows. -/
theorem vanish_within (free : shell.Unfollowed id) (inside : region.surfaces id) :
    Within region [] [] shell { shell with surfaces := shell.surfaces.erase id } := by
  refine ⟨.silent ⟨fun other outside => ?_, fun _ _ => rfl, fun _ _ _ => .rfl⟩ rfl rfl,
    vanish_thins shell id, .single (.vanish id free)⟩
  rw [Table.get?_erase, if_neg]
  rintro rfl
  exact outside inside

end Changes

end Shell

end WindowShell
