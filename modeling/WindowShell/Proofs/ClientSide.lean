/-
**The client's side of a shell.**

The surfaces, the serials and the messages are what a client can see of its shell. Views, popups and
listeners only follow them: no listener changes a surface, takes a serial or sends a message.

* `emit_clientSide`: a signal leaves the client's side as it is, whoever hears it;
* `removeAll_get?`: removing surfaces forgets exactly these.
-/

import WindowShell.Proofs.Run

namespace WindowShell

/-- What a shell keeps about its client. -/
structure ClientSide where
  surfaces : Table SurfaceId Surface
  serials : SerialCounter
  outbox : List Message

namespace Shell

/-- The client's side of a shell. -/
def clientSide (shell : Shell) : ClientSide :=
  { surfaces := shell.surfaces, serials := shell.serials, outbox := shell.outbox }

theorem surfaces_of_clientSide {before after : Shell}
    (same : after.clientSide = before.clientSide) : after.surfaces = before.surfaces :=
  congrArg ClientSide.surfaces same

theorem serials_of_clientSide {before after : Shell}
    (same : after.clientSide = before.clientSide) : after.serials = before.serials :=
  congrArg ClientSide.serials same

theorem outbox_of_clientSide {before after : Shell}
    (same : after.clientSide = before.clientSide) : after.outbox = before.outbox :=
  congrArg ClientSide.outbox same

/-! ### Views and popups -/

section Followers

variable (shell : Shell)

@[simp] theorem tell_clientSide (event : Event) :
    (shell.tell event).clientSide = shell.clientSide := rfl

@[simp] theorem changeView_clientSide (id : ViewId) (change : View → View) :
    (shell.changeView id change).clientSide = shell.clientSide := rfl

@[simp] theorem changePopup_clientSide (id : PopupId) (change : Popup → Popup) :
    (shell.changePopup id change).clientSide = shell.clientSide := rfl

@[simp] theorem placeView_clientSide (id : ViewId) (position : Point) :
    (shell.placeView id position).clientSide = shell.clientSide := by
  unfold placeView
  split
  · rfl
  · split <;> rfl

@[simp] theorem createView_clientSide (surface : SurfaceId) :
    (shell.createView surface).clientSide = shell.clientSide := by
  unfold createView
  split
  · split <;> rfl
  · rfl

@[simp] theorem createPopup_clientSide (view : ViewId) (surface : SurfaceId) :
    (shell.createPopup view surface).clientSide = shell.clientSide := by
  unfold createPopup
  split
  · rfl
  · split <;> rfl

@[simp] theorem forgetPopup_clientSide (id : PopupId) :
    (shell.forgetPopup id).clientSide = shell.clientSide := by
  unfold forgetPopup
  split <;> rfl

theorem forgetPopups_clientSide (ids : List PopupId) :
    (ids.foldl forgetPopup shell).clientSide = shell.clientSide := by
  induction ids generalizing shell with
  | nil => rfl
  | cons id ids ih => rw [List.foldl_cons, ih, forgetPopup_clientSide]

@[simp] theorem forgetView_clientSide (id : ViewId) :
    (shell.forgetView id).clientSide = shell.clientSide := by
  unfold forgetView
  split
  · rfl
  · exact forgetPopups_clientSide _ _

end Followers

/-! ### Signals -/

section Signals

variable (shell : Shell)

@[simp] theorem viewCommitted_clientSide (id : ViewId) :
    (shell.viewCommitted id).clientSide = shell.clientSide := by
  unfold viewCommitted
  split
  · rfl
  · split
    · rfl
    · split
      · simp only [tell_clientSide]
        split <;> simp
      · rfl

@[simp] theorem viewMapped_clientSide (id : ViewId) :
    (shell.viewMapped id).clientSide = shell.clientSide := by
  unfold viewMapped
  split
  · rfl
  · split
    · rfl
    · simp only []
      split <;> rfl

@[simp] theorem viewUnmapped_clientSide (id : ViewId) :
    (shell.viewUnmapped id).clientSide = shell.clientSide := by
  unfold viewUnmapped
  split
  · rfl
  · split <;> rfl

@[simp] theorem viewDestroyed_clientSide (id : ViewId) :
    (shell.viewDestroyed id).clientSide = shell.clientSide := by
  unfold viewDestroyed
  split
  · rfl
  · simp only [tell_clientSide]
    split <;> simp

@[simp] theorem deliverToView_clientSide (id : ViewId) (signal : Signal) :
    (shell.deliverToView id signal).clientSide = shell.clientSide := by
  cases signal with
  | requestMove | requestResize =>
    simp only [deliverToView]
    split <;> rfl
  | _ => simp [deliverToView]

@[simp] theorem deliverToPopup_clientSide (id : PopupId) (signal : Signal) :
    (shell.deliverToPopup id signal).clientSide = shell.clientSide := by
  unfold deliverToPopup
  split
  · rfl
  · split <;> simp

@[simp] theorem deliver_clientSide (signal : Signal) (target : ListenerTarget) :
    (shell.deliver signal target).clientSide = shell.clientSide := by
  cases target <;> simp [deliver]

/-- **A signal leaves the client's side as it is.** -/
@[simp] theorem emit_clientSide (surface : SurfaceId) (signal : Signal) :
    (shell.emit surface signal).clientSide = shell.clientSide := by
  unfold emit
  generalize shell.registry.listeners surface signal.kind = listeners
  induction listeners generalizing shell with
  | nil => rfl
  | cons listener listeners ih =>
    rw [List.foldl_cons, ih]
    split
    · exact deliver_clientSide _ _ _
    · rfl

@[simp] theorem emit_surfaces (surface : SurfaceId) (signal : Signal) :
    (shell.emit surface signal).surfaces = shell.surfaces :=
  surfaces_of_clientSide (emit_clientSide shell surface signal)

end Signals

/-! ### Surfaces that are removed -/

/-- A surface that is removed is forgotten, and that is all that the table of surfaces shows of it. -/
theorem removeSurface_surfaces (shell : Shell) (id : SurfaceId) :
    (shell.removeSurface id).surfaces = shell.surfaces.erase id := by
  unfold removeSurface
  split
  · next absent => exact (Table.erase_of_not_mem (Table.get?_eq_none_iff.mp absent)).symm
  · next surface present =>
    refine (congrArg (Table.erase · id) ?_).trans (Table.erase_insert _ id surface.hide)
    rw [emit_surfaces]
    split
    · exact emit_surfaces _ _ _
    · rfl

theorem removeSurface_get? (shell : Shell) (id other : SurfaceId) :
    (shell.removeSurface id).surfaces.get? other =
      if other = id then none else shell.surfaces.get? other := by
  rw [removeSurface_surfaces, Table.get?_erase]

theorem removeSurface_outbox (shell : Shell) (id : SurfaceId) :
    (shell.removeSurface id).outbox = shell.outbox := by
  unfold removeSurface
  split
  · rfl
  · refine (outbox_of_clientSide (emit_clientSide _ _ _)).trans ?_
    split
    · exact (outbox_of_clientSide (emit_clientSide _ _ _)).trans rfl
    · rfl

theorem removeSurface_serials (shell : Shell) (id : SurfaceId) :
    (shell.removeSurface id).serials = shell.serials := by
  unfold removeSurface
  split
  · rfl
  · refine (serials_of_clientSide (emit_clientSide _ _ _)).trans ?_
    split
    · exact (serials_of_clientSide (emit_clientSide _ _ _)).trans rfl
    · rfl

/-- Removing surfaces forgets exactly these. -/
theorem removeAll_get? (shell : Shell) (ids : List SurfaceId) (other : SurfaceId) :
    (ids.foldl removeSurface shell).surfaces.get? other =
      if other ∈ ids then none else shell.surfaces.get? other := by
  induction ids generalizing shell with
  | nil => simp
  | cons id ids ih =>
    rw [List.foldl_cons, ih, removeSurface_get?]
    by_cases same : other = id <;> by_cases later : other ∈ ids <;> simp [same, later]

theorem removeAll_entries (shell : Shell) (ids : List SurfaceId) :
    (ids.foldl removeSurface shell).surfaces.entries =
      shell.surfaces.entries.filter fun entry => entry.1 ∉ ids := by
  induction ids generalizing shell with
  | nil => exact (List.filter_eq_self.mpr fun _ _ => by simp).symm
  | cons id ids ih =>
    rw [List.foldl_cons, ih, removeSurface_surfaces, Table.erase, List.filter_filter]
    refine List.filter_congr fun entry _ => ?_
    simp [Bool.and_comm]

theorem removeAll_outbox (shell : Shell) (ids : List SurfaceId) :
    (ids.foldl removeSurface shell).outbox = shell.outbox := by
  induction ids generalizing shell with
  | nil => rfl
  | cons id ids ih => rw [List.foldl_cons, ih, removeSurface_outbox]

theorem removeAll_serials (shell : Shell) (ids : List SurfaceId) :
    (ids.foldl removeSurface shell).serials = shell.serials := by
  induction ids generalizing shell with
  | nil => rfl
  | cons id ids ih => rw [List.foldl_cons, ih, removeSurface_serials]

end Shell

end WindowShell
