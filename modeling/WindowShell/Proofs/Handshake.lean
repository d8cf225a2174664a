/-
**A client can always show its surface.**

Whatever happened to a surface before, a client that wants it to be visible has a way to get there: it
commits nothing, acknowledges the newest configure in flight, if there is one, and attaches a buffer.
The first commit makes sure that there is something to go on, a configure that was acknowledged before
or one that is in flight, and it is sent one if there is neither:

* `Surface.commit_nothing`, `Surface.ack_newest_ok`, `Surface.commit_shows`: the three requests;
* `hidden_surface_can_be_shown`: the handshake succeeds, and the view is mapped with it, once.
-/

import Mathlib.Data.List.TakeWhile
import WindowShell.Proofs.LastMove
import WindowShell.Proofs.Rounds

namespace WindowShell

/-- The size with which an event says that a view became visible. -/
def Event.mappedAs? (id : ViewId) : Event → Option Size
  | .mapped view size => if view = id then some size else none
  | _ => none

namespace Surface

/-! ### The three requests -/

/-- A commit of nothing leaves a hidden surface hidden, and asks for a configure if there is nothing to
go on. -/
theorem commit_nothing {surface : Surface} (roled : surface.role ≠ .unset) (backed : surface.Backed)
    (hidden : surface.mapped = false) :
    ∃ latched effect, surface.commit {} = .ok (latched, effect) ∧ latched.mapped = false ∧
      (effect = .needsConfigure ∨
        effect = .settled ∧ (latched.configured ∨ latched.inflight ≠ [])) := by
  have unheld : surface.buffer = none :=
    Option.isNone_iff_eq_none.mp (Option.isSome_eq_false_iff.mp (backed.mapped.symm.trans hidden))
  have empty : (surface.latchAck.latchContent {}).buffer = none :=
    (latchAck_buffer surface).trans unheld
  have unmapped : (surface.latchAck.latchContent {}).mapped = false :=
    (latch_mapped surface {}).trans hidden
  rw [commit_eq, if_neg roled, if_neg (by exact Bool.false_ne_true)]
  generalize surface.latchAck.latchContent {} = latched at empty unmapped
  by_cases waits : latched.configured = false ∧ latched.inflight = []
  · exact ⟨latched, .needsConfigure, by simp [settle, unmapped, empty, waits], unmapped, .inl rfl⟩
  · have ready : latched.configured ∨ latched.inflight ≠ [] := by
      rwa [not_and_or, Bool.not_eq_false] at waits
    refine ⟨latched, .settled, ?_, unmapped, .inr ⟨rfl, ready⟩⟩
    simp only [settle, unmapped, empty]
    rcases ready with configured | flying
    · simp [configured]
    · simp [flying]

/-- The newest configure in flight can be acknowledged. -/
theorem ack_newest_ok {surface : Surface} {serial : Serial}
    (newest : surface.newestSerial? = some serial) : ∃ after, surface.ack serial.val = .ok after := by
  obtain ⟨configure, last, rfl⟩ := Option.map_eq_some_iff.mp newest
  rw [ack_eq]
  split
  · exact ⟨_, rfl⟩
  · next passed =>
    have skipped := List.dropWhile_eq_nil_iff.mp passed configure (List.mem_of_getLast? last)
    simp at skipped

/-- A hidden surface that is configured or about to be is shown with its next buffer. -/
theorem commit_shows {surface : Surface} {commit : Commit} {size : Size}
    (roled : surface.role ≠ .unset) (hidden : surface.mapped = false)
    (ready : surface.configured ∨ surface.acked.isSome) (attaches : commit.buffer = .attach size) :
    surface.commit commit =
      .ok ({ surface.latchAck.latchContent commit with mapped := true }, .mapped) := by
  have early : surface.attachesTooEarly commit = false := by
    simp only [attachesTooEarly, attaches]
    rcases ready with configured | acked
    · simp [configured]
    · simp [Option.isNone_eq_false_iff.mpr acked]
  have configured : surface.latchAck.configured := by
    rw [latchAck_configured]
    exact Bool.or_eq_true_iff.mpr ready
  have buffer : (surface.latchAck.latchContent commit).buffer = some size := by
    rw [latchContent, attaches]
    rfl
  rw [commit_eq, if_neg roled, early, settle]
  simp [hidden, configured, buffer]

end Surface

namespace Shell

/-- The sizes with which a view became visible, as the desktop was told, oldest first. -/
def mapsOf (shell : Shell) (id : ViewId) : List Size :=
  shell.desktop.events.filterMap (Event.mappedAs? id)

/-- The client commits nothing. -/
def commitNothing (shell : Shell) (id : SurfaceId) : Reply :=
  shell.perform (.request (.commit id {}))

section Mapping

variable {shell : Shell} {id : SurfaceId} {surface after : Surface} {commit : Commit}

theorem tell_maps {view : ViewId} {event : Event} (silent : event.mappedAs? view = none) :
    (shell.tell event).mapsOf view = shell.mapsOf view := by
  rw [mapsOf, tell, Desktop.tell, List.filterMap_append, mapsOf]
  simp [silent]

theorem land_maps (view other : ViewId) (released : Option Point) :
    (shell.land other released).mapsOf view = shell.mapsOf view := by
  cases released with
  | none => rfl
  | some position =>
    rw [land, Option.elim_some, placeView]
    split
    · rfl
    · split
      · rfl
      · exact tell_maps rfl

/-! ### The handshake -/

/-- After a commit of nothing there is something for the client to go on, and no view has changed. -/
theorem commitNothing_cases (roled : surface.role ≠ .unset) (backed : surface.Backed)
    (present : shell.surfaces.get? id = some surface) (hidden : surface.mapped = false) :
    ∃ (asked : Shell) (ready : Surface), shell.commitNothing id = (asked.emit id .commit).accept ∧
      asked.frame = shell.frame ∧ asked.views = shell.views ∧ asked.desktop = shell.desktop ∧
        asked.surfaces.get? id = some ready ∧ ready.mapped = false ∧
          (ready.configured ∨ ready.inflight ≠ []) := by
  obtain ⟨latched, effect, done, unmapped, why⟩ := Surface.commit_nothing roled backed hidden
  have taken := commit_of_ok present done
  have frame := followed_frame shell effect present (Surface.bare_commit done)
  rcases why with rfl | ⟨rfl, ready⟩
  · rcases configure_cases shell id latched true with ⟨undue, -⟩ | ⟨configure, told, _, due, sent⟩
    · have due := Surface.duePayload?_force (Surface.commit_roled done)
      exact absurd (Surface.schedule_eq_none_iff.mp undue) due
    · obtain ⟨-, -, rfl, -⟩ := Surface.schedule_some due
      refine ⟨_, { latched with inflight := latched.inflight ++ [configure] }, taken, frame, ?_, ?_,
        ?_, unmapped, .inr (List.concat_ne_nil configure _)⟩
      · rw [followed, sent]; rfl
      · rw [followed, sent]; rfl
      · rw [followed, sent]
        exact putSurface_surface _ _ _
  · exact ⟨_, latched, taken, frame, rfl, rfl, putSurface_surface _ _ _, unmapped, ready⟩

/-- A client with something to go on catches up. -/
theorem catchUp_ready (present : shell.surfaces.get? id = some surface)
    (ready : surface.configured ∨ surface.inflight ≠ []) :
    (shell.catchUp id).fault = none ∧ (shell.catchUp id).shell.views = shell.views ∧
      (shell.catchUp id).shell.desktop = shell.desktop ∧
        ∃ caught, (shell.catchUp id).shell.surfaces.get? id = some caught ∧
          caught.mapped = surface.mapped ∧ (caught.configured ∨ caught.acked.isSome) := by
  cases newest : surface.newestSerial? with
  | none =>
    have idle : surface.inflight = [] :=
      List.getLast?_eq_none_iff.mp (Option.map_eq_none_iff.mp newest)
    rw [catchUp_of_none present newest]
    exact ⟨rfl, rfl, rfl, surface, present, rfl, .inl (ready.resolve_right (not_not_intro idle))⟩
  | some serial =>
    obtain ⟨caught, done⟩ := Surface.ack_newest_ok newest
    rw [catchUp_of_ack present newest done]
    obtain ⟨_, _, -, rfl⟩ := Surface.ack_ok done
    exact ⟨rfl, rfl, rfl, _, putSurface_surface _ _ _, rfl, .inr rfl⟩

/-- A commit that shows a surface succeeds. -/
theorem commit_mapped (present : shell.surfaces.get? id = some surface)
    (done : surface.commit commit = .ok (after, .mapped)) :
    (shell.perform (.request (.commit id commit))).fault = none ∧
      (shell.perform (.request (.commit id commit))).shell.surfaces.get? id = some after := by
  rw [perform, handle, commit_of_ok present done, accept]
  refine ⟨rfl, ?_⟩
  rw [emit_surfaces, followed, emit_surfaces, putSurface_surface]

/-- The view of a surface that is shown is mapped with its size, once. -/
theorem commit_maps (sound : shell.Sound) (present : shell.surfaces.get? id = some surface)
    (done : surface.commit commit = .ok (after, .mapped)) {view : ViewId} {old : View}
    (live : shell.views.get? view = some old) (wraps : old.surface = id)
    (hidden : old.mapped = false) :
    ∃ new, (shell.perform (.request (.commit id commit))).shell.views.get? view = some new ∧
      new.surface = id ∧ new.mapped ∧ new.size = after.contentSize ∧
        (shell.perform (.request (.commit id commit))).shell.mapsOf view =
          shell.mapsOf view ++ [after.contentSize] := by
  subst wraps
  have mapped : after.mapped := (Surface.commit_effect done).2
  have put := putSurface_surface shell old.surface after
  have stored := sound.congr (putSurface_frame shell present (Surface.bare_commit done))
  have kept : (shell.putSurface old.surface after).views.get? view = some old := live
  have shown : shell.followed old.surface after .mapped =
      ((shell.putSurface old.surface after).changeView view fun view =>
        { view with size := after.contentSize, mapped := true }).tell
          (.mapped view after.contentSize) :=
    (stored.emit_view kept .map).trans (viewMapped_of_hidden kept put hidden)
  have seen : (shell.followed old.surface after .mapped).surfaces.get? old.surface = some after := by
    rw [followed, emit_surfaces, put]
  have visible : (shell.followed old.surface after .mapped).views.get? view =
      some { old with size := after.contentSize, mapped := true } := by
    rw [shown]
    exact changeView_view kept _
  have maps : (shell.followed old.surface after .mapped).mapsOf view =
      shell.mapsOf view ++ [after.contentSize] := by
    rw [shown]
    simp [mapsOf, tell, Desktop.tell, changeView, putSurface, Event.mappedAs?]
  have heard : (shell.perform (.request (.commit old.surface commit))).shell =
      (shell.followed old.surface after .mapped).viewCommitted view := by
    have announced := sound.congr
      (followed_frame shell .mapped present (Surface.bare_commit done))
    rw [perform, handle, commit_of_ok present done, accept]
    exact announced.emit_view visible .commit
  rw [heard, viewCommitted_of_mapped visible seen mapped]
  refine ⟨_, land_view (changeView_view visible _) _, rfl, rfl, rfl, ?_⟩
  rw [tell_maps rfl, tell_maps rfl, land_maps]
  exact maps

/-- **A client can always show its surface.** Whatever happened before, a hidden surface takes a commit
of nothing, then the acknowledgement of the newest configure in flight, if there is one, and then a
commit that attaches a buffer. The surface is visible after that; and if it has a view, so is the view,
with the size of the surface, and the desktop was told so once. -/
theorem hidden_surface_can_be_shown {count : Nat} (reached : Reached count shell) (id : SurfaceId)
    (present : shell.surfaces.get? id = some surface) (hidden : surface.mapped = false)
    (commit : Commit) (size : Size) (attaches : commit.buffer = .attach size) :
    (shell.commitNothing id).fault = none ∧ ((shell.commitNothing id).shell.catchUp id).fault = none ∧
      ((shell.commitNothing id).shell.answer id commit).fault = none ∧
        ∃ shown, ((shell.commitNothing id).shell.answer id commit).shell.surfaces.get? id =
            some shown ∧ shown.mapped ∧
          ∀ view old, shell.views.get? view = some old → old.surface = id →
            ∃ new, ((shell.commitNothing id).shell.answer id commit).shell.views.get? view =
                some new ∧ new.surface = id ∧ new.mapped ∧ new.size = shown.contentSize ∧
              ((shell.commitNothing id).shell.answer id commit).shell.mapsOf view =
                shell.mapsOf view ++ [shown.contentSize] := by
  have roled := reached.roled id surface present
  obtain ⟨asked, ready, nothing, frame, views, desktop, there, unmapped, something⟩ :=
    commitNothing_cases roled (reached.backed id surface present) present hidden
  have first : Reached (count + 1) (shell.commitNothing id).shell := .act _ reached
  have invited : (shell.commitNothing id).shell.surfaces.get? id = some ready := by
    rw [nothing, accept, emit_surfaces, there]
  obtain ⟨acked, same, still, caught, found, level, able⟩ := catchUp_ready invited something
  have second := first.catchUp id
  have done := Surface.commit_shows (second.roled id caught found) (level.trans unmapped) able attaches
  obtain ⟨accepted, stored⟩ := commit_mapped found done
  refine ⟨by rw [nothing]; rfl, acked, accepted, _, stored, rfl, fun view old live wraps => ?_⟩
  -- until the last commit the view has noticed nothing
  have unseen : old.mapped = false :=
    ((reached.inStep id view old surface live wraps present).1).trans hidden
  have watches : asked.views.get? view = some old := by rw [views, live]
  have unmoved : (shell.commitNothing id).shell = asked := by
    have delivered := (reached.sound.congr frame).emit_view watches .commit
    rw [nothing, accept, ← wraps, delivered]
    exact viewCommitted_of_hidden watches (wraps.symm ▸ there) (by simp [unmapped])
  have kept : ((shell.commitNothing id).shell.catchUp id).shell.views.get? view = some old := by
    rw [same, unmoved, watches]
  have maps : ((shell.commitNothing id).shell.catchUp id).shell.mapsOf view = shell.mapsOf view := by
    rw [mapsOf, still, unmoved, desktop, mapsOf]
  rw [← maps]
  exact commit_maps second.sound found done kept wraps unseen

end Mapping

/-- A window that was shown in one size and hidden again. -/
def hiddenClient : Shell :=
  (fresh { pingOnCreate := false } .empty 0).performAll (shownAgain.take 5)

/-- Its client shows it in another size, of which the desktop is told once. -/
theorem hidden_surface_can_be_shown_hiddenClient :
    ∃ new, ((hiddenClient.commitNothing ⟨1⟩).shell.answer ⟨1⟩
        { buffer := .attach { width := 80, height := 60 } }).shell.views.get? ⟨1⟩ = some new ∧
      new.mapped ∧ new.size = { width := 80, height := 60 } ∧
      ((hiddenClient.commitNothing ⟨1⟩).shell.answer ⟨1⟩
        { buffer := .attach { width := 80, height := 60 } }).shell.mapsOf ⟨1⟩ =
          [{ width := 100, height := 100 }, { width := 80, height := 60 }] := by
  have reached : Reached 5 hiddenClient := (Reached.fresh 0 _ .empty 0).performAll (shownAgain.take 5)
  obtain ⟨-, -, -, shown, stored, -, each⟩ := hidden_surface_can_be_shown reached ⟨1⟩ rfl rfl
    { buffer := .attach { width := 80, height := 60 } } _ rfl
  obtain ⟨new, kept, -, visible, size, maps⟩ := each ⟨1⟩ _ rfl rfl
  have large : (((hiddenClient.commitNothing ⟨1⟩).shell.answer ⟨1⟩
      { buffer := .attach { width := 80, height := 60 } }).shell.surfaces.get? ⟨1⟩).map
        Surface.contentSize = some { width := 80, height := 60 } := by decide
  have before : hiddenClient.mapsOf ⟨1⟩ = [{ width := 100, height := 100 }] := by decide
  rw [stored, Option.map_some, Option.some.injEq] at large
  refine ⟨new, kept, visible, size.trans large, ?_⟩
  rw [maps, before, large]
  rfl

end Shell

end WindowShell
