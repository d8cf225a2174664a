/-
**What a view shows of its surface.**

A view remembers whether its surface is visible, and how large it was when the client last committed it
while it was. Nothing but the signals of that very surface changes either of the two, and between two
acts a view is in step with its surface:

* `Surface.commit_effect`: what a commit announces is what happened to the visibility of the surface;
* `Untouched`, `perform_untouched`: every act but a commit of a surface leaves its view alone;
* `commit_inStep`: the view takes over what a commit of its surface leaves there;
* `Reached.inStep`: so the view and the surface are visible together, and then agree on the size.
-/

import WindowShell.Proofs.Timeline

namespace WindowShell

/-- A view without the list of its popups. -/
def View.face (view : View) : View := { view with popups := [] }

/-- A signal that a view passes on, if it does anything about it. -/
def Signal.Aside : Signal → Prop
  | .commit | .map | .unmap | .destroy => False
  | _ => True

/-- What the effect of a commit says of the visibility before and after it. -/
def CommitEffect.Tells (before after : Bool) : CommitEffect → Prop
  | .mapped => before = false ∧ after = true
  | .unmapped => before = true ∧ after = false
  | .settled | .needsConfigure => after = before

namespace Surface

/-- A commit announces what it does to the visibility of the surface. -/
theorem commit_effect {surface after : Surface} {commit : Commit} {effect : CommitEffect}
    (done : surface.commit commit = .ok (after, effect)) :
    effect.Tells surface.mapped after.mapped := by
  obtain ⟨-, -, settled⟩ := commit_ok done
  rw [← latch_mapped surface commit]
  generalize surface.latchAck.latchContent commit = latched at settled
  unfold settle at settled
  split at settled
  · next lost =>
    cases settled
    exact ⟨(Bool.and_eq_true_iff.mp lost).1, rfl⟩
  · split at settled
    · next shows =>
      cases settled
      simp only [Bool.and_eq_true, Bool.not_eq_true'] at shows
      exact ⟨shows.1.1, rfl⟩
    · split at settled <;> cases settled <;> rfl

end Surface

namespace Shell

/-- What is known of a view apart from its popups. -/
def faceOf? (shell : Shell) (id : ViewId) : Option View := (shell.views.get? id).map View.face

/-! ### Views and their popups -/

section Faces

variable (shell : Shell)

theorem faceOf?_changeView_of_ne {id other : ViewId} (differ : other ≠ id) (change : View → View) :
    (shell.changeView id change).faceOf? other = shell.faceOf? other := by
  rw [faceOf?, changeView, Table.get?_modify, if_neg differ, faceOf?]

/-- The popups of a view do not show in its face. -/
theorem faceOf?_modify_popups (id other : ViewId) (change : List PopupId → List PopupId) :
    ((shell.views.modify id fun owner => { owner with popups := change owner.popups }).get?
      other).map View.face = shell.faceOf? other := by
  rw [Table.get?_modify, faceOf?]
  split
  · rw [Option.map_map]
    rfl
  · rfl

@[simp] theorem faceOf?_createPopup (view : ViewId) (surface : SurfaceId) (other : ViewId) :
    (shell.createPopup view surface).faceOf? other = shell.faceOf? other := by
  rcases createPopup_cases shell view surface with same | ⟨-, created⟩
  · rw [same]
  · rw [created]
    exact shell.faceOf?_modify_popups view other (· ++ [shell.nextPopup])

@[simp] theorem faceOf?_forgetPopup (id : PopupId) (other : ViewId) :
    (shell.forgetPopup id).faceOf? other = shell.faceOf? other := by
  cases found : shell.popups.get? id with
  | none => rw [forgetPopup_of_none shell found]
  | some popup =>
    rw [forgetPopup_of_some shell found]
    exact shell.faceOf?_modify_popups popup.view other (·.filter (· ≠ id))

theorem faceOf?_forgetPopups (ids : List PopupId) (other : ViewId) :
    (ids.foldl forgetPopup shell).faceOf? other = shell.faceOf? other := by
  induction ids generalizing shell with
  | nil => rfl
  | cons id ids ih => rw [List.foldl_cons, ih, faceOf?_forgetPopup]

/-- A view that is forgotten takes no other view along. -/
theorem faceOf?_forgetView (id other : ViewId) :
    (shell.forgetView id).faceOf? other = if other = id then none else shell.faceOf? other := by
  cases found : shell.views.get? id with
  | none =>
    rw [forgetView_of_none shell found]
    split
    · next same => rw [same, faceOf?, found, Option.map_none]
    · rfl
  | some view =>
    rw [forgetView_of_some shell found, faceOf?_forgetPopups, faceOf?, dropView, Table.get?_erase]
    split <;> rfl

@[simp] theorem faceOf?_deliverToPopup (id : PopupId) (signal : Signal) (other : ViewId) :
    (shell.deliverToPopup id signal).faceOf? other = shell.faceOf? other := by
  unfold deliverToPopup
  split
  · rfl
  · split <;> first | rfl | simp

theorem faceOf?_deliver {signal : Signal} (aside : signal.Aside) (target : ListenerTarget)
    (other : ViewId) : (shell.deliver signal target).faceOf? other = shell.faceOf? other := by
  cases target with
  | view id =>
    cases signal with
    | commit | map | unmap | destroy => cases aside
    | newPopup popup => exact faceOf?_createPopup shell id popup other
    | requestMove | requestResize =>
      simp only [deliver, deliverToView]
      split <;> rfl
    | requestMaximize | requestFullscreen => rfl
  | popup id => exact faceOf?_deliverToPopup shell id signal other

theorem faceOf?_emit {signal : Signal} (aside : signal.Aside) (origin : SurfaceId)
    (other : ViewId) : (shell.emit origin signal).faceOf? other = shell.faceOf? other := by
  unfold emit
  generalize shell.registry.listeners origin signal.kind = listeners
  induction listeners generalizing shell with
  | nil => rfl
  | cons listener listeners ih =>
    rw [List.foldl_cons, ih]
    split
    · exact faceOf?_deliver shell aside _ other
    · rfl

end Faces

/-! ### Views that are left alone -/

/-- **The view of a surface is left alone**: it is visible and as large as before. -/
def Untouched (window : SurfaceId) (before after : Shell) : Prop :=
  ∀ id new, after.views.get? id = some new → new.surface = window →
    ∃ old, before.views.get? id = some old ∧ old.surface = window ∧ new.mapped = old.mapped ∧
      new.size = old.size

section Leaving

variable {window : SurfaceId} {first second third shell : Shell}

namespace Untouched

theorem refl (shell : Shell) : Untouched window shell shell := fun _ new found same =>
  ⟨new, found, same, rfl, rfl⟩

theorem trans (early : Untouched window first second) (late : Untouched window second third) :
    Untouched window first third := by
  intro id new found same
  obtain ⟨middle, there, kept, mapped, size⟩ := late id new found same
  obtain ⟨old, present, first, visible, large⟩ := early id middle there kept
  exact ⟨old, present, first, mapped.trans visible, size.trans large⟩

/-- Views go, and otherwise nothing but popups is changed. -/
theorem of_faces (faces : ∀ id, second.faceOf? id = none ∨ second.faceOf? id = first.faceOf? id) :
    Untouched window first second := by
  intro id new found same
  have face : second.faceOf? id = some new.face := by rw [faceOf?, found, Option.map_some]
  rcases faces id with gone | kept
  · rw [gone] at face
    cases face
  · rw [kept] at face
    obtain ⟨old, there, equal⟩ := Option.map_eq_some_iff.mp face
    have surface : old.face.surface = new.face.surface := congrArg View.surface equal
    have mapped : old.face.mapped = new.face.mapped := congrArg View.mapped equal
    have size : old.face.size = new.face.size := congrArg View.size equal
    exact ⟨old, there, surface.trans same, mapped.symm, size.symm⟩

theorem of_views (views : second.views = first.views) : Untouched window first second :=
  of_faces fun id => .inr (by rw [faceOf?, views, faceOf?])

/-- A change keeps what it does not name. -/
theorem changeView (id : ViewId) {change : View → View}
    (keeps : ∀ view, (change view).surface = view.surface ∧ (change view).mapped = view.mapped ∧
      (change view).size = view.size) :
    Untouched window shell (shell.changeView id change) := by
  intro other new found same
  rw [Shell.changeView, Table.get?_modify] at found
  split at found
  · obtain ⟨old, there, rfl⟩ := Option.map_eq_some_iff.mp found
    exact ⟨old, there, (keeps old).1 ▸ same, (keeps old).2⟩
  · exact ⟨new, found, same, rfl, rfl⟩

/-- The view of another surface is changed. -/
theorem changeOther {id : ViewId} {view : View} (live : shell.views.get? id = some view)
    (other : view.surface ≠ window) {change : View → View}
    (keeps : (change view).surface = view.surface) :
    Untouched window shell (shell.changeView id change) := by
  intro target new found same
  rw [Shell.changeView, Table.get?_modify] at found
  split at found
  · next here =>
    rw [here, live] at found
    obtain rfl := Option.some.inj found
    exact absurd (keeps.symm.trans same) other
  · exact ⟨new, found, same, rfl, rfl⟩

theorem placeView (id : ViewId) (position : Point) :
    Untouched window shell (shell.placeView id position) := by
  unfold Shell.placeView
  split
  · exact .refl shell
  · split
    · exact .refl shell
    · exact .changeView id fun _ => ⟨rfl, rfl, rfl⟩

theorem land (id : ViewId) (released : Option Point) :
    Untouched window shell (shell.land id released) := by
  cases released with
  | none => exact .refl shell
  | some position => exact .placeView id position

theorem configure (other : SurfaceId) (state : Surface) (force : Bool) :
    Untouched window shell (shell.configure other state force).1 := by
  rcases configure_cases shell other state force with ⟨-, stored⟩ | ⟨_, _, _, -, stored⟩ <;>
    rw [stored] <;> exact .of_views rfl

theorem forgetView (id : ViewId) : Untouched window shell (shell.forgetView id) := by
  refine of_faces fun other => ?_
  rw [faceOf?_forgetView]
  split
  · exact .inl rfl
  · exact .inr rfl

end Untouched

/-! ### Acts that leave a view alone -/

/-- A signal of another surface. -/
theorem deliverToView_untouched {id : ViewId} {view : View} (live : shell.views.get? id = some view)
    (other : view.surface ≠ window) (signal : Signal) :
    Untouched window shell (shell.deliverToView id signal) := by
  cases signal with
  | commit =>
    simp only [deliverToView]
    cases present : shell.surfaces.get? view.surface with
    | none =>
      rw [viewCommitted, live]
      simp only [present]
      exact .refl shell
    | some surface =>
      by_cases mapped : surface.mapped
      · rw [viewCommitted_of_mapped live present mapped]
        refine .trans (.trans (.changeOther live other ?_) (.land id _)) (.of_views rfl)
        rfl
      · rw [viewCommitted_of_hidden live present mapped]
        exact .refl shell
  | destroy =>
    simp only [deliverToView, viewDestroyed, live]
    refine (Untouched.forgetView id).trans ?_
    split <;> exact .of_views rfl
  | map =>
    simp only [deliverToView, viewMapped, live]
    split
    · exact .refl shell
    · split <;> exact .changeOther live other rfl
  | unmap =>
    simp only [deliverToView, viewUnmapped, live]
    split
    · exact .changeOther live other rfl
    · exact .refl shell
  | newPopup popup => exact .of_faces fun _ => .inr (faceOf?_createPopup shell id popup _)
  | requestMove | requestResize =>
    simp only [deliverToView]
    split <;> exact .of_views rfl
  | requestMaximize | requestFullscreen => exact .of_views rfl

/-- Signals of other surfaces. -/
theorem emit_untouched (sound : shell.Sound) {origin : SurfaceId} (other : origin ≠ window)
    (signal : Signal) : Untouched window shell (shell.emit origin signal) := by
  rcases followed_or_unfollowed shell origin with ⟨target, wrapping, found, rfl⟩ | alone
  · rw [sound.emit_followed found]
    cases target with
    | view id =>
      obtain ⟨view, live, rfl⟩ := Option.map_eq_some_iff.mp found
      exact deliverToView_untouched live other signal
    | popup id => exact .of_faces fun _ => .inr (faceOf?_deliverToPopup shell id signal _)
  · rw [emit_unfollowed sound.held alone]
    exact .refl shell

theorem removeSurface_untouched (sound : shell.Sound) {id : SurfaceId} (other : id ≠ window) :
    Untouched window shell (shell.removeSurface id) := by
  rcases removeSurface_cases shell id with same | ⟨surface, hidden, found, frame, hides, removed⟩
  · rw [same]
    exact .refl shell
  · have stored : (shell.putSurface id surface.hide).Sound :=
      sound.congr (putSurface_frame shell found rfl)
    have away : Untouched window shell hidden := by
      rcases hides with rfl | rfl
      · exact .of_views rfl
      · exact .trans (.of_views rfl) (emit_untouched stored other .unmap)
    rw [removed]
    exact (away.trans (emit_untouched (sound.congr frame) other .destroy)).trans (.of_views rfl)

theorem removeAll_untouched (sound : shell.Sound) {ids : List SurfaceId} (kept : window ∉ ids) :
    Untouched window shell (ids.foldl removeSurface shell) := by
  induction ids generalizing shell with
  | nil => exact .refl shell
  | cons id ids ih =>
    rw [List.mem_cons, not_or] at kept
    obtain ⟨other, later⟩ := kept
    exact (removeSurface_untouched sound (Ne.symm other)).trans
      (ih ((removeSurface_moves sound id).sound sound) later)

theorem followed_untouched (sound : shell.Sound) {id : SurfaceId} {before after : Surface}
    (present : shell.surfaces.get? id = some before) (bare : after.role.bare = before.role.bare)
    (other : id ≠ window) (effect : CommitEffect) :
    Untouched window shell (shell.followed id after effect) := by
  have stored : (shell.putSurface id after).Sound := sound.congr (putSurface_frame shell present bare)
  have put : Untouched window shell (shell.putSurface id after) := .of_views rfl
  cases effect with
  | settled => exact put
  | needsConfigure => exact .configure id after true
  | mapped => exact put.trans (emit_untouched stored other .map)
  | unmapped => exact put.trans (emit_untouched stored other .unmap)

theorem call_untouched (id : ViewId) (call : WindowCall) :
    Untouched window shell (shell.call id call) := by
  have carried := call_carried shell id call
  generalize shell.call id call = after at carried
  cases carried with
  | forget => exact .forgetView id
  | miss => exact .refl shell
  | close => exact .of_views rfl
  | propose => exact .configure _ _ _
  | moveResize position size =>
    rw [moveResize_eq]
    refine .trans (.trans (.configure _ _ _) (.changeView id ?_)) (.land id _)
    exact fun _ => ⟨rfl, rfl, rfl⟩

/-- **Every act but a commit of a surface leaves its view alone**, if the surface stays. -/
theorem perform_untouched (sound : shell.Sound) (roled : shell.Roled) (act : Act)
    {before after : Surface} (present : shell.surfaces.get? window = some before)
    (stays : (shell.perform act).shell.surfaces.get? window = some after)
    (other : ∀ commit, act ≠ .request (.commit window commit)) :
    Untouched window shell (shell.perform act).shell := by
  cases act with
  | call id call => exact call_untouched id call
  | request request =>
    cases request with
    | newToplevel id =>
      rcases newToplevel_cases roled id with ⟨fault, refused⟩ | ⟨new, taken⟩
      · rw [perform, handle, refused]
        exact .refl shell
      · rw [perform, handle, taken]
        intro view record found same
        rcases createView_view _ found with old | ⟨listeners, rfl⟩
        · rw [ping_views] at old
          exact ⟨record, old, same, rfl, rfl⟩
        · rw [show id = window from same, present] at new
          cases new
    | newPopup id parent geometry =>
      rcases newPopup_cases roled id parent geometry with ⟨fault, refused⟩ | ⟨new, taken⟩
      · rw [perform, handle, refused]
        exact .refl shell
      · rw [perform, handle, taken]
        refine .of_faces fun view => .inr (faceOf?_emit _ ?_ parent view)
        trivial
    | setMinSize id | setMaxSize id | ack id =>
      rw [perform, handle]
      rcases changeSurface_stores shell id _ with kept | ⟨_, stored⟩
      · rw [kept]
        exact .refl shell
      · rw [stored]
        exact .of_views rfl
    | commit id commit =>
      have elsewhere : id ≠ window := by
        rintro rfl
        exact other commit rfl
      rcases commit_cases shell id commit with
        ⟨fault, refused⟩ | ⟨old, latched, effect, found, done, taken⟩
      · rw [perform, handle, refused]
        exact .refl shell
      · have bare := Surface.bare_commit done
        rw [perform, handle, taken]
        exact (followed_untouched sound found bare elsewhere effect).trans
          (emit_untouched (sound.congr (followed_frame shell effect found bare)) elsewhere .commit)
    | move id | resize id | maximize id | fullscreen id =>
      rcases forward_cases shell id _ with ⟨fault, refused⟩ | taken
      · rw [perform, handle, refused]
        exact .refl shell
      · rw [perform, handle, taken]
        refine .of_faces fun view => .inr (faceOf?_emit shell ?_ id view)
        trivial
    | destroy root =>
      obtain ⟨ids, gone⟩ := destroy_removes shell root
      rw [perform, handle, gone] at stays ⊢
      refine removeAll_untouched sound fun member => ?_
      rw [removeAll_get?, if_pos member] at stays
      cases stays

end Leaving

/-! ### Commits -/

section Following

variable {shell : Shell} {window : SurfaceId}

theorem viewMapped_of_hidden {id : ViewId} {view : View} {surface : Surface}
    (found : shell.views.get? id = some view)
    (present : shell.surfaces.get? view.surface = some surface) (hidden : view.mapped = false) :
    shell.viewMapped id =
      (shell.changeView id fun view => { view with size := surface.contentSize, mapped := true }).tell
        (.mapped id surface.contentSize) := by
  simp [viewMapped, found, present, hidden]

theorem viewUnmapped_of_visible {id : ViewId} {view : View}
    (found : shell.views.get? id = some view) (visible : view.mapped = true) :
    shell.viewUnmapped id =
      (shell.changeView id fun view => { view with mapped := false }).tell (.unmapped id) := by
  simp [viewUnmapped, found, visible]

/-- A signal of a window goes to its view. -/
theorem Sound.emit_view (sound : shell.Sound) {id : ViewId} {view : View}
    (found : shell.views.get? id = some view) (signal : Signal) :
    shell.emit view.surface signal = shell.deliverToView id signal :=
  sound.emit_followed (show shell.wrapping? (.view id) = some view.wrapping by
    rw [wrapping?, found, Option.map_some]) signal

/-- A signal of a popup goes to its record. -/
theorem Sound.emit_popup (sound : shell.Sound) {id : PopupId} {popup : Popup}
    (found : shell.popups.get? id = some popup) (signal : Signal) :
    shell.emit popup.surface signal = shell.deliverToPopup id signal :=
  sound.emit_followed (show shell.wrapping? (.popup id) = some popup.wrapping by
    rw [wrapping?, found, Option.map_some]) signal

theorem putSurface_surface (shell : Shell) (id : SurfaceId) (surface : Surface) :
    (shell.putSurface id surface).surfaces.get? id = some surface := by
  rw [putSurface, Table.get?_insert, if_pos rfl]

/-- What a commit brings about before it is announced leaves the surface as it was committed, perhaps
with one more configure in flight. -/
theorem followed_stored (shell : Shell) (window : SurfaceId) (surface : Surface)
    (effect : CommitEffect) :
    ∃ inflight, (shell.followed window surface effect).surfaces.get? window =
      some { surface with inflight } := by
  have put := putSurface_surface shell window surface
  cases effect with
  | settled => exact ⟨surface.inflight, put⟩
  | needsConfigure =>
    rcases configure_cases shell window surface true with ⟨-, stored⟩ | ⟨_, told, _, due, stored⟩
    · exact ⟨surface.inflight, by rw [followed, stored, put]⟩
    · obtain ⟨-, -, rfl, -⟩ := Surface.schedule_some due
      exact ⟨_, by rw [followed, stored]; exact putSurface_surface _ _ _⟩
  | mapped => exact ⟨surface.inflight, by rw [followed, emit_surfaces, put]⟩
  | unmapped => exact ⟨surface.inflight, by rw [followed, emit_surfaces, put]⟩

/-- A view becomes visible and stops being visible with its surface, before the commit is announced. -/
theorem followed_view (sound : shell.Sound) {before after : Surface} {commit : Commit}
    {effect : CommitEffect} (present : shell.surfaces.get? window = some before)
    (done : before.commit commit = .ok (after, effect)) {id : ViewId} {old : View}
    (live : shell.views.get? id = some old) (wraps : old.surface = window)
    (same : old.mapped = before.mapped) :
    ∃ new, (shell.followed window after effect).views.get? id = some new ∧ new.surface = window ∧
      new.mapped = after.mapped := by
  subst wraps
  have put := putSurface_surface shell old.surface after
  have stored : (shell.putSurface old.surface after).Sound :=
    sound.congr (putSurface_frame shell present (Surface.bare_commit done))
  have kept : (shell.putSurface old.surface after).views.get? id = some old := live
  have visibility := Surface.commit_effect done
  cases effect with
  | settled => exact ⟨old, live, rfl, same.trans visibility.symm⟩
  | needsConfigure =>
    refine ⟨old, ?_, rfl, same.trans visibility.symm⟩
    rcases configure_cases shell old.surface after true with ⟨-, told⟩ | ⟨_, _, _, -, told⟩ <;>
      rw [followed, told] <;> exact live
  | mapped =>
    have heard : shell.followed old.surface after .mapped =
        (shell.putSurface old.surface after).viewMapped id := stored.emit_view kept .map
    rw [heard, viewMapped_of_hidden kept put (same.trans visibility.1)]
    exact ⟨_, changeView_view kept _, rfl, visibility.2.symm⟩
  | unmapped =>
    have heard : shell.followed old.surface after .unmapped =
        (shell.putSurface old.surface after).viewUnmapped id := stored.emit_view kept .unmap
    rw [heard, viewUnmapped_of_visible kept (same.trans visibility.1)]
    exact ⟨_, changeView_view kept _, rfl, visibility.2.symm⟩

/-- A view takes over the size that is committed while its surface is visible. -/
theorem viewCommitted_view {id : ViewId} {view : View} {surface : Surface}
    (found : shell.views.get? id = some view)
    (present : shell.surfaces.get? view.surface = some surface)
    (same : view.mapped = surface.mapped) :
    ∃ new, (shell.viewCommitted id).views.get? id = some new ∧ new.surface = view.surface ∧
      new.mapped = surface.mapped ∧ (surface.mapped → new.size = surface.contentSize) := by
  by_cases mapped : surface.mapped
  · rw [viewCommitted_of_mapped found present mapped]
    exact ⟨_, land_view (changeView_view found _) _, rfl, same, fun _ => rfl⟩
  · rw [viewCommitted_of_hidden found present mapped]
    exact ⟨view, found, rfl, same, fun visible => absurd visible mapped⟩

/-- The view of a surface shows what the surface is. -/
def InStep (shell : Shell) (window : SurfaceId) : Prop :=
  ∀ id view surface, shell.views.get? id = some view → view.surface = window →
    shell.surfaces.get? window = some surface →
      view.mapped = surface.mapped ∧ (surface.mapped → view.size = surface.contentSize)

/-- **The view takes over what a commit of its surface leaves there.** -/
theorem commit_inStep (sound : shell.Sound) (inStep : shell.InStep window) (commit : Commit) :
    (shell.commit window commit).shell.InStep window := by
  rcases commit_cases shell window commit with
    ⟨fault, refused⟩ | ⟨before, after, effect, present, done, taken⟩
  · rw [refused]
    exact inStep
  intro id view surface live same found
  have announced := sound.congr (followed_frame shell effect present (Surface.bare_commit done))
  obtain ⟨old, was, core⟩ := view_of_frame (commit_frame window commit) live
  have wraps : old.surface = window := (View.surface_of_core core).trans same
  obtain ⟨middle, there, mine, visible⟩ := followed_view sound present done was wraps
    (inStep id old before was wraps present).1
  obtain ⟨inflight, stored⟩ := followed_stored shell window after effect
  have heard : (shell.followed window after effect).emit window .commit =
      (shell.followed window after effect).viewCommitted id := by
    have delivered := announced.emit_view there .commit
    rwa [mine] at delivered
  rw [taken, accept, emit_surfaces, stored] at found
  rw [taken, accept, heard] at live
  obtain rfl := Option.some.inj found
  have shown : middle.mapped = ({ after with inflight } : Surface).mapped := visible
  obtain ⟨new, kept, -, shows⟩ := viewCommitted_view there (mine.symm ▸ stored) shown
  obtain rfl := Option.some.inj (live.symm.trans kept)
  exact shows

end Following

/-! ### Runs -/

/-- An act that is no commit changes neither the visibility nor the size of a surface. -/
theorem Turn.content {shell : Shell} {id : SurfaceId} {act : Act} {sent : List Configure}
    {before after : Surface} (turn : Turn shell id act (some before) (some after) sent)
    (other : ∀ commit, act ≠ .request (.commit id commit)) :
    after.mapped = before.mapped ∧ after.contentSize = before.contentSize := by
  cases turn with
  | rest => exact ⟨rfl, rfl⟩
  | declareMin size done | declareMax size done =>
    rw [Surface.changeToplevel_ok done]
    exact ⟨rfl, rfl⟩
  | ack raw done =>
    obtain ⟨_, _, -, rfl⟩ := Surface.ack_ok done
    exact ⟨rfl, rfl⟩
  | commit commit => exact absurd rfl (other commit)
  | invite commit => exact absurd rfl (other commit)
  | agree => exact ⟨rfl, rfl⟩
  | propose asked due =>
    obtain ⟨-, -, rfl, -⟩ := Surface.schedule_some due
    exact ⟨rfl, rfl⟩

/-- A surface that appears is not visible yet, and nor is its view. -/
theorem appears_inStep {shell : Shell} {window : SurfaceId} {act : Act} (sound : shell.Sound)
    (roled : shell.Roled) (absent : shell.surfaces.get? window = none) :
    (shell.perform act).shell.InStep window := by
  intro id view surface live wraps found
  obtain ⟨sent, -, turn⟩ := perform_turn roled act window
  have unviewed : shell.views.get? id ≠ some view := fun there =>
    sound.unfollowed absent (.view id) view.wrapping (by rw [wrapping?, there, Option.map_some]) wraps
  rw [absent, found] at turn
  cases turn with
  | popup parent geometry =>
    obtain ⟨_, present, window⟩ := (perform_sound sound roled _).view_fits live
    rw [wraps, found] at present
    obtain rfl := Option.some.inj present
    cases window
  | window =>
    refine ⟨?_, fun visible => by cases visible⟩
    rcases newToplevel_cases roled window with ⟨fault, refused⟩ | ⟨new, taken⟩
    · rw [perform, handle, refused] at live
      exact absurd live unviewed
    · rw [perform, handle, taken] at live
      rcases createView_view _ live with old | ⟨listeners, rfl⟩
      · rw [ping_views] at old
        exact absurd old unviewed
      · rfl

/-- **Every act leaves every view in step with its surface.** -/
theorem perform_inStep {shell : Shell} {window : SurfaceId} (sound : shell.Sound)
    (roled : shell.Roled) (inStep : shell.InStep window) (act : Act) :
    (shell.perform act).shell.InStep window := by
  cases present : shell.surfaces.get? window with
  | none => exact appears_inStep sound roled present
  | some before =>
    by_cases commits : ∃ commit, act = .request (.commit window commit)
    · obtain ⟨commit, rfl⟩ := commits
      exact commit_inStep sound inStep commit
    · have other : ∀ commit, act ≠ .request (.commit window commit) := not_exists.mp commits
      intro id new after live wraps found
      obtain ⟨sent, -, turn⟩ := perform_turn roled act window
      rw [present, found] at turn
      obtain ⟨mapped, size⟩ := turn.content other
      obtain ⟨old, was, same, visible, large⟩ :=
        perform_untouched sound roled act present found other id new live wraps
      rw [mapped, size, visible, large]
      exact inStep id old before was same present

/-- **A view shows what its surface is**, at any time. -/
theorem Reached.inStep {count : Nat} {shell : Shell} (reached : Reached count shell)
    (window : SurfaceId) : shell.InStep window := by
  induction reached with
  | fresh => exact fun _ _ _ live => by cases live
  | act act reached ih => exact perform_inStep reached.sound reached.roled ih act

end Shell

end WindowShell
