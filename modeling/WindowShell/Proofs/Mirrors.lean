/-
**What happens to twins.**

Two shells that look the same in a closed region are twins there. Whatever starts in the region finds the
same records and surfaces in both, and so it does the same in both: the same messages are posted, the same
is told, and afterwards they are twins again. The rest of each shell stays out of it, even where the two
have nothing in common:

* `Twins`, `Mirrors`: two shells, and the same thing happening to both of them;
* `Mirrors.twins`: twins stay twins;
* `Twins.putSurface` to `Twins.vanish`: the small changes;
* `Twins.deliver`, `Twins.emit`: signals, except for those that announce a popup;
* `Twins.configure`: a configure, where both count serials alike or none is due.
-/

import WindowShell.Proofs.Regions

namespace WindowShell

namespace Shell

/-- **Two shells are twins in a region**: it is closed in both, and they look the same there. -/
structure Twins (region : Region) (shell twin : Shell) : Prop where
  alike : Alike region shell twin
  seats : shell.desktop.seats = twin.desktop.seats
  whole : ∃ count, Whole count shell
  also : ∃ count, Whole count twin
  closed : Closed region shell
  shut : Closed region twin

/-- **The same happens to two shells.** It stays in a region, and there they look the same afterwards. -/
structure Mirrors (region : Region) (shell twin after mirror : Shell) : Prop where
  within : ∃ messages events, Within region messages events shell after ∧
    Within region messages events twin mirror
  alike : Alike region after mirror
  /-- No serial is taken, or the same one from both. -/
  serials : after.serials = shell.serials ∧ mirror.serials = twin.serials ∨
    shell.serials = twin.serials ∧ after.serials = mirror.serials

section Pairs

variable {region : Region} {shell twin after mirror final image : Shell}

namespace Mirrors

theorem refl (alike : Alike region shell twin) : Mirrors region shell twin shell twin where
  within := ⟨[], [], .refl _ _, .refl _ _⟩
  alike := alike
  serials := .inl ⟨rfl, rfl⟩

theorem trans (early : Mirrors region shell twin after mirror)
    (late : Mirrors region after mirror final image) : Mirrors region shell twin final image where
  within := by
    obtain ⟨messages, events, one, two⟩ := early.within
    obtain ⟨more, further, three, four⟩ := late.within
    exact ⟨messages ++ more, events ++ further, one.trans three, two.trans four⟩
  alike := late.alike
  serials := by
    rcases early.serials with ⟨here, there⟩ | ⟨same, here⟩ <;>
      rcases late.serials with ⟨still, quiet⟩ | ⟨also, there'⟩
    · exact .inl ⟨still.trans here, quiet.trans there⟩
    · exact .inr ⟨here.symm.trans (also.trans there), there'⟩
    · exact .inr ⟨same, still.trans (here.trans quiet.symm)⟩
    · exact .inr ⟨same, there'⟩

/-- **Twins stay twins.** -/
theorem twins (mirrors : Mirrors region shell twin after mirror) (twins : Twins region shell twin) :
    Twins region after mirror := by
  obtain ⟨messages, events, one, two⟩ := mirrors.within
  obtain ⟨count, whole⟩ := twins.whole
  obtain ⟨many, also⟩ := twins.also
  exact
    { alike := mirrors.alike
      seats := one.thins.seats.trans (twins.seats.trans two.thins.seats.symm)
      whole := ⟨count, whole.moves one.moves⟩
      also := ⟨many, also.moves two.moves⟩
      closed := twins.closed.thins one.thins
      shut := twins.shut.thins two.thins }

/-- What happens to twins, and then to the twins that they become. -/
theorem onward (early : Mirrors region shell twin after mirror) (twins : Twins region shell twin)
    (late : Twins region after mirror → Mirrors region after mirror final image) :
    Mirrors region shell twin final image :=
  early.trans (late (early.twins twins))

end Mirrors

/-- Two changes within the region that take no serial. -/
theorem Within.mirrors {messages : List Message} {events : List Event}
    (one : Within region messages events shell after) (two : Within region messages events twin mirror)
    (alike : Alike region after mirror) (serials : after.serials = shell.serials)
    (also : mirror.serials = twin.serials) : Mirrors region shell twin after mirror :=
  ⟨⟨messages, events, one, two⟩, alike, .inl ⟨serials, also⟩⟩

end Pairs

namespace Twins

variable {region : Region} {shell twin : Shell} {id : SurfaceId} {view : ViewId} {popup : PopupId}
  {messages : List Message}

/-! ### Finding the same -/

/-- A shell that is whole is its own twin. -/
theorem refl {count : Nat} (whole : Whole count shell) (closed : Closed region shell) :
    Twins region shell shell :=
  ⟨.refl _ _, rfl, ⟨count, whole⟩, ⟨count, whole⟩, closed, closed⟩

theorem symm (twins : Twins region shell twin) : Twins region twin shell :=
  ⟨twins.alike.symm, twins.seats.symm, twins.also, twins.whole, twins.shut, twins.closed⟩

theorem sound (twins : Twins region shell twin) : shell.Sound :=
  twins.whole.elim fun _ whole => whole.sound

theorem linked (twins : Twins region shell twin) : ∃ count, Linked count shell :=
  twins.whole.elim fun count whole => ⟨count, whole.linked⟩

/-- What follows a surface of the region follows it in both shells. -/
theorem wrapping? (twins : Twins region shell twin) {target : ListenerTarget} {wrapping : Wrapping}
    (found : shell.wrapping? target = some wrapping) (inside : region.surfaces wrapping.surface) :
    twin.wrapping? target = some wrapping :=
  (twins.alike.wrapping? (twins.closed.houses found inside)).symm.trans found

theorem unfollowed (twins : Twins region shell twin) (inside : region.surfaces id)
    (free : shell.Unfollowed id) : twin.Unfollowed id := by
  rintro target wrapping found rfl
  exact free target wrapping (twins.symm.wrapping? found inside) rfl

/-- A view that wraps a surface of the region does so in both shells. -/
theorem viewOf? (twins : Twins region shell twin) (inside : region.surfaces id) :
    shell.viewOf? id = twin.viewOf? id := by
  cases found : shell.viewOf? id with
  | some view =>
    obtain ⟨record, live, rfl⟩ := viewOf?_live found
    have there := twins.alike.views view ((twins.closed.views view record live).mp inside)
    exact (twins.symm.sound.viewOf?_eq (there ▸ live)).symm
  | none =>
    refine (viewOf?_eq_none_iff.mpr ?_).symm
    rintro view record live rfl
    have there := twins.alike.views view ((twins.shut.views view record live).mp inside)
    exact viewOf?_eq_none_iff.mp found view record (there.trans live) rfl

/-- The window of a view of the region is the same in both shells. -/
theorem window? (twins : Twins region shell twin) (inside : region.views view) :
    shell.window? view = twin.window? view := by
  rw [Shell.window?, Shell.window?, ← twins.alike.views view inside]
  cases found : shell.views.get? view with
  | none => rfl
  | some record =>
    have within := (twins.closed.views view record found).mpr inside
    simp only [Option.bind_eq_bind, Option.bind_some, twins.alike.surfaces record.surface within]

/-! ### Small changes -/

theorem tell (twins : Twins region shell twin) {event : Event} (about : region.views event.view) :
    Mirrors region shell twin (shell.tell event) (twin.tell event) :=
  (tell_within shell about).mirrors (tell_within twin about)
    ⟨twins.alike.surfaces, twins.alike.views, twins.alike.popups⟩ rfl rfl

/-- Messages without a serial are sent. -/
theorem send (twins : Twins region shell twin)
    (addressed : ∀ message ∈ messages, region.surfaces message.surface) :
    Mirrors region shell twin (shell.send messages) (twin.send messages) :=
  (post_within shell shell.serials addressed).mirrors (post_within twin twin.serials addressed)
    ⟨twins.alike.surfaces, twins.alike.views, twins.alike.popups⟩ rfl rfl

/-- Messages are sent with the serials of a counter that both shells share. -/
theorem issue (twins : Twins region shell twin) (same : shell.serials = twin.serials)
    (serials : SerialCounter) (addressed : ∀ message ∈ messages, region.surfaces message.surface) :
    Mirrors region shell twin (({ shell with serials } : Shell).send messages)
      (({ twin with serials } : Shell).send messages) where
  within := ⟨messages, [], post_within shell serials addressed, post_within twin serials addressed⟩
  alike := ⟨twins.alike.surfaces, twins.alike.views, twins.alike.popups⟩
  serials := .inr ⟨same, rfl⟩

theorem putSurface (twins : Twins region shell twin) {old surface : Surface}
    (present : shell.surfaces.get? id = some old) (same : surface.role.bare = old.role.bare)
    (inside : region.surfaces id) :
    Mirrors region shell twin (shell.putSurface id surface) (twin.putSurface id surface) := by
  have there := (twins.alike.surfaces id inside).symm.trans present
  refine (putSurface_within present same inside).mirrors (putSurface_within there same inside)
    ⟨fun other within => ?_, twins.alike.views, twins.alike.popups⟩ rfl rfl
  rw [Shell.putSurface, Shell.putSurface, Table.get?_insert, Table.get?_insert,
    twins.alike.surfaces other within]

theorem changeView (twins : Twins region shell twin) {change : View → View}
    (keeps : ∀ record, (change record).core = record.core) (inside : region.views view) :
    Mirrors region shell twin (shell.changeView view change) (twin.changeView view change) := by
  refine (changeView_within shell keeps inside).mirrors (changeView_within twin keeps inside)
    ⟨twins.alike.surfaces, fun other within => ?_, twins.alike.popups⟩ rfl rfl
  rw [Shell.changeView, Shell.changeView, Table.get?_modify, Table.get?_modify,
    twins.alike.views other within]

theorem changePopup (twins : Twins region shell twin) {record : Popup} {change : Popup → Popup}
    (found : shell.popups.get? popup = some record)
    (keeps : ∀ record, (change record).core = record.core) (inside : region.views record.view) :
    Mirrors region shell twin (shell.changePopup popup change) (twin.changePopup popup change) := by
  have there := (twins.alike.popups popup record inside).mp found
  refine (changePopup_within found keeps inside).mirrors (changePopup_within there keeps inside)
    ⟨twins.alike.surfaces, twins.alike.views, fun other kept within => ?_⟩ rfl rfl
  rw [Shell.changePopup, Shell.changePopup, Table.get?_modify, Table.get?_modify]
  by_cases same : other = popup
  · rw [if_pos same, if_pos same, same, found, there]
  · rw [if_neg same, if_neg same]
    exact twins.alike.popups other kept within

theorem forgetPopup (twins : Twins region shell twin) {record : Popup}
    (found : shell.popups.get? popup = some record) (inside : region.views record.view) :
    Mirrors region shell twin (shell.forgetPopup popup) (twin.forgetPopup popup) := by
  have there := (twins.alike.popups popup record inside).mp found
  refine (forgetPopup_within found inside).mirrors (forgetPopup_within there inside)
    ⟨fun other within => ?_, fun other within => ?_, fun other kept within => ?_⟩
    (serials_of_clientSide (forgetPopup_clientSide _ _))
    (serials_of_clientSide (forgetPopup_clientSide _ _))
  · rw [surfaces_of_clientSide (forgetPopup_clientSide _ _),
      surfaces_of_clientSide (forgetPopup_clientSide _ _), twins.alike.surfaces other within]
  · rw [forgetPopup_of_some shell found, forgetPopup_of_some twin there]
    simp only [Table.get?_modify, twins.alike.views other within]
  · rw [popups_forgetPopup, popups_forgetPopup]
    split
    · exact .rfl
    · exact twins.alike.popups other kept within

theorem forgetView (twins : Twins region shell twin) (inside : region.views view) :
    Mirrors region shell twin (shell.forgetView view) (twin.forgetView view) := by
  obtain ⟨_, linked⟩ := twins.linked
  obtain ⟨_, also⟩ := twins.symm.linked
  refine (forgetView_within linked inside).mirrors (forgetView_within also inside)
    ⟨fun other within => ?_, fun other within => ?_, fun other kept within => ?_⟩
    (serials_of_clientSide (forgetView_clientSide _ _))
    (serials_of_clientSide (forgetView_clientSide _ _))
  · rw [surfaces_of_clientSide (forgetView_clientSide _ _),
      surfaces_of_clientSide (forgetView_clientSide _ _), twins.alike.surfaces other within]
  · rw [linked.views_forgetView, also.views_forgetView, twins.alike.views other within]
  · rw [linked.popups_forgetView, also.popups_forgetView, Option.filter_eq_some_iff,
      Option.filter_eq_some_iff, twins.alike.popups other kept within]

theorem vanish (twins : Twins region shell twin) (free : shell.Unfollowed id)
    (inside : region.surfaces id) :
    Mirrors region shell twin { shell with surfaces := shell.surfaces.erase id }
      { twin with surfaces := twin.surfaces.erase id } := by
  refine (vanish_within free inside).mirrors (vanish_within (twins.unfollowed inside free) inside)
    ⟨fun other within => ?_, twins.alike.views, twins.alike.popups⟩ rfl rfl
  rw [Table.get?_erase, Table.get?_erase, twins.alike.surfaces other within]

/-! ### Signals -/

theorem placeView (twins : Twins region shell twin) (inside : region.views view) (position : Point) :
    Mirrors region shell twin (shell.placeView view position) (twin.placeView view position) := by
  rw [Shell.placeView, Shell.placeView, ← twins.alike.views view inside]
  split
  · exact .refl twins.alike
  · split
    · exact .refl twins.alike
    · refine .onward ?_ twins fun twins => twins.tell inside
      exact twins.changeView (fun _ => rfl) inside

theorem land (twins : Twins region shell twin) (inside : region.views view)
    (released : Option Point) :
    Mirrors region shell twin (shell.land view released) (twin.land view released) := by
  cases released with
  | none => exact .refl twins.alike
  | some position => exact twins.placeView inside position

theorem viewCommitted (twins : Twins region shell twin) (inside : region.views view) :
    Mirrors region shell twin (shell.viewCommitted view) (twin.viewCommitted view) := by
  cases found : shell.views.get? view with
  | none =>
    have there := (twins.alike.views view inside).symm.trans found
    simp only [Shell.viewCommitted, found, there]
    exact .refl twins.alike
  | some record =>
    have there := (twins.alike.views view inside).symm.trans found
    have within := (twins.closed.views view record found).mpr inside
    obtain ⟨surface, present, -⟩ := twins.sound.view_fits found
    have also := (twins.alike.surfaces record.surface within).symm.trans present
    by_cases mapped : surface.mapped
    · rw [viewCommitted_of_mapped found present mapped, viewCommitted_of_mapped there also mapped]
      refine .onward ?_ twins fun twins => twins.tell inside
      refine .onward ?_ twins fun twins => twins.tell inside
      refine .onward ?_ twins fun twins => twins.land inside _
      exact twins.changeView (fun _ => rfl) inside
    · rw [viewCommitted_of_hidden found present mapped, viewCommitted_of_hidden there also mapped]
      exact .refl twins.alike

theorem viewMapped (twins : Twins region shell twin) (inside : region.views view) :
    Mirrors region shell twin (shell.viewMapped view) (twin.viewMapped view) := by
  rw [Shell.viewMapped, Shell.viewMapped, ← twins.alike.views view inside]
  split
  · exact .refl twins.alike
  · next record found =>
    rw [← twins.alike.surfaces record.surface ((twins.closed.views view record found).mpr inside)]
    split
    · exact .refl twins.alike
    · simp only []
      split
      · exact twins.changeView (fun _ => rfl) inside
      · refine .onward ?_ twins fun twins => twins.tell inside
        exact twins.changeView (fun _ => rfl) inside

theorem viewUnmapped (twins : Twins region shell twin) (inside : region.views view) :
    Mirrors region shell twin (shell.viewUnmapped view) (twin.viewUnmapped view) := by
  rw [Shell.viewUnmapped, Shell.viewUnmapped, ← twins.alike.views view inside]
  split
  · exact .refl twins.alike
  · split
    · refine .onward ?_ twins fun twins => twins.tell inside
      exact twins.changeView (fun _ => rfl) inside
    · exact .refl twins.alike

theorem viewDestroyed (twins : Twins region shell twin) (inside : region.views view) :
    Mirrors region shell twin (shell.viewDestroyed view) (twin.viewDestroyed view) := by
  rw [Shell.viewDestroyed, Shell.viewDestroyed, ← twins.alike.views view inside]
  split
  · exact .refl twins.alike
  · have gone := twins.forgetView inside
    simp only []
    split
    · refine .onward ?_ twins fun twins => twins.tell inside
      exact .onward gone twins fun twins => twins.tell inside
    · exact .onward gone twins fun twins => twins.tell inside

/-- A view of the region does the same on a signal. -/
theorem deliverToView (twins : Twins region shell twin) (inside : region.views view) {signal : Signal}
    (opens : ∀ surface, signal ≠ .newPopup surface) :
    Mirrors region shell twin (shell.deliverToView view signal) (twin.deliverToView view signal) := by
  cases signal with
  | commit => exact twins.viewCommitted inside
  | map => exact twins.viewMapped inside
  | unmap => exact twins.viewUnmapped inside
  | destroy => exact twins.viewDestroyed inside
  | newPopup surface => exact absurd rfl (opens surface)
  | requestMove seat | requestResize seat =>
    have idle : shell.desktop.seatIsIdle seat = twin.desktop.seatIsIdle seat := by
      rw [Desktop.seatIsIdle, Desktop.seatIsIdle, twins.seats]
    simp only [Shell.deliverToView, idle]
    split
    · exact twins.tell inside
    · exact .refl twins.alike
  | requestMaximize | requestFullscreen => exact twins.tell inside

/-- A popup of the region does the same on a signal. -/
theorem deliverToPopup (twins : Twins region shell twin) {record : Popup}
    (found : shell.popups.get? popup = some record) (inside : region.views record.view)
    {signal : Signal} (opens : ∀ surface, signal ≠ .newPopup surface) :
    Mirrors region shell twin (shell.deliverToPopup popup signal) (twin.deliverToPopup popup signal) := by
  have there := (twins.alike.popups popup record inside).mp found
  simp only [Shell.deliverToPopup, found, there]
  cases signal with
  | commit => exact twins.tell inside
  | map | unmap =>
    refine .onward ?_ twins fun twins => twins.tell inside
    exact twins.changePopup found (fun _ => rfl) inside
  | destroy => exact twins.forgetPopup found inside
  | newPopup surface => exact absurd rfl (opens surface)
  | requestMove | requestResize | requestMaximize | requestFullscreen => exact .refl twins.alike

/-- What is in the region does the same on a signal. -/
theorem deliver (twins : Twins region shell twin) {target : ListenerTarget}
    (inside : shell.Houses region target) {signal : Signal}
    (opens : ∀ surface, signal ≠ .newPopup surface) :
    Mirrors region shell twin (shell.deliver signal target) (twin.deliver signal target) := by
  cases target with
  | view view => exact twins.deliverToView inside opens
  | popup popup =>
    obtain ⟨record, found, inside⟩ := inside
    exact twins.deliverToPopup found inside opens

/-- **A signal of the region does the same to both shells**, since the same follows its surface. -/
theorem emit (twins : Twins region shell twin) (inside : region.surfaces id) {signal : Signal}
    (opens : ∀ surface, signal ≠ .newPopup surface) :
    Mirrors region shell twin (shell.emit id signal) (twin.emit id signal) := by
  rcases followed_or_unfollowed shell id with ⟨target, wrapping, found, rfl⟩ | free
  · have there := twins.wrapping? found inside
    rw [twins.sound.emit_followed found, twins.symm.sound.emit_followed there]
    exact twins.deliver (twins.closed.houses found inside) opens
  · rw [emit_unfollowed twins.sound.held free,
      emit_unfollowed twins.symm.sound.held (twins.unfollowed inside free)]
    exact .refl twins.alike

end Twins

end Shell

end WindowShell
