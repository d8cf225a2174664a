/-
**How far a popup has come.**

The record of a popup follows its surface. It starts with a surface that was never visible, and from then
on it changes with the visibility of that surface and with nothing else. What it damages is the view that
it names, which is the one at the root, because records are anchored there.

* `Spared`, `perform_spared`: every act but a commit of a surface leaves the record on it alone;
* `commit_popup`: what a commit makes of the record, and what the desktop is told;
* `Lifetime.tells`: so the record tells what became of its surface;
* `popups_are_flat`: where popups are anchored, how far they have come, and what they damage.
-/

import WindowShell.Proofs.Destruction
import WindowShell.Proofs.History

namespace WindowShell

/-- An event that asks for a view to be drawn again. -/
def Event.Damages : Event → Prop
  | .damaged _ | .fullyDamaged _ => True
  | _ => False

namespace PopupState

/-- What becomes of the state of a popup when its surface was visible or not before and is now. -/
def follow (state : PopupState) : Bool → Bool → PopupState
  | false, true => .mapped
  | true, false => .unmapped
  | _, _ => state

/-- **A state tells what became of a surface**: whether it is visible now, and whether it ever was. -/
structure Tells (state : PopupState) (now : Bool) (ever : Prop) : Prop where
  mapped : now → state = .mapped
  created : ¬ ever → state = .created
  unmapped : ¬ now → ever → state = .unmapped

theorem follow_self (state : PopupState) (visible : Bool) : state.follow visible visible = state := by
  cases visible <;> rfl

/-- The record of a surface that was never visible. -/
theorem tells_created {ever : Prop} (never : ¬ ever) : created.Tells false ever :=
  ⟨nofun, fun _ => rfl, fun _ seen => absurd seen never⟩

theorem Tells.follow {state : PopupState} {before : Bool} {ever : Prop}
    (tells : state.Tells before ever) (known : before → ever) (after : Bool) :
    (state.follow before after).Tells after (ever ∨ after) := by
  cases before <;> cases after
  · refine ⟨nofun, fun never => ?_, fun hidden seen => ?_⟩
    · exact tells.created fun seen => never (.inl seen)
    · exact tells.unmapped hidden (seen.resolve_right hidden)
  · exact ⟨fun _ => rfl, fun never => absurd (.inr rfl) never, fun hidden => absurd rfl hidden⟩
  · exact ⟨nofun, fun never => absurd (.inl (known rfl)) never, fun _ _ => rfl⟩
  · exact ⟨fun _ => tells.mapped rfl, fun never => absurd (.inr rfl) never,
      fun hidden => absurd rfl hidden⟩

end PopupState

namespace Shell

/-! ### Records that are left alone -/

/-- Whatever record a surface has afterwards, it had before. -/
def Spared (id : SurfaceId) (before after : Shell) : Prop :=
  ∀ popup record, after.popups.get? popup = some record → record.surface = id →
    before.popups.get? popup = some record

section Sparing

variable {id origin : SurfaceId} {first second third shell : Shell}

namespace Spared

theorem refl (shell : Shell) : Spared id shell shell := fun _ _ found _ => found

theorem trans (early : Spared id first second) (late : Spared id second third) :
    Spared id first third := fun popup record found wraps =>
  early popup record (late popup record found wraps) wraps

theorem of_popups (same : second.popups = first.popups) : Spared id first second :=
  fun _ _ found _ => same ▸ found

theorem forgetPopup (popup : PopupId) : Spared id shell (shell.forgetPopup popup) := by
  intro other record found _
  rw [popups_forgetPopup] at found
  split at found
  · cases found
  · exact found

theorem forgetView (view : ViewId) : Spared id shell (shell.forgetView view) := by
  intro popup record found _
  cases live : shell.views.get? view with
  | none => rwa [forgetView_of_none shell live] at found
  | some owner =>
    rw [forgetView_of_some shell live, popups_forgetPopups] at found
    split at found
    · cases found
    · exact found

/-- The record of another surface is created. -/
theorem createPopup (view : ViewId) (other : origin ≠ id) :
    Spared id shell (shell.createPopup view origin) := by
  intro popup record found wraps
  rcases createPopup_popup shell found with old | ⟨listeners, rfl⟩
  · exact old
  · exact absurd wraps other

/-- The record of another surface is changed. -/
theorem changePopup {popup : PopupId} {record : Popup} (there : shell.popups.get? popup = some record)
    (other : record.surface ≠ id) {change : Popup → Popup}
    (keeps : (change record).surface = record.surface) :
    Spared id shell (shell.changePopup popup change) := by
  intro target new found wraps
  rw [Shell.changePopup, Table.get?_modify] at found
  split at found
  · next here =>
    rw [here, there] at found
    obtain rfl := Option.some.inj found
    exact absurd (keeps.symm.trans wraps) other
  · exact found

theorem changeView (view : ViewId) (change : View → View) :
    Spared id shell (shell.changeView view change) :=
  .of_popups rfl

theorem createView (surface : SurfaceId) : Spared id shell (shell.createView surface) := by
  unfold Shell.createView
  split
  · split <;> exact .of_popups rfl
  · exact .refl shell

theorem ping (surface : SurfaceId) : Spared id shell (shell.ping surface) := by
  unfold Shell.ping
  split
  · exact .of_popups rfl
  · exact .refl shell

theorem configure (other : SurfaceId) (surface : Surface) (force : Bool) :
    Spared id shell (shell.configure other surface force).1 := by
  rcases configure_cases shell other surface force with ⟨-, stored⟩ | ⟨_, _, _, -, stored⟩ <;>
    rw [stored] <;> exact .of_popups rfl

theorem land (view : ViewId) (released : Option Point) :
    Spared id shell (shell.land view released) := by
  cases released with
  | none => exact .refl shell
  | some position =>
    show Spared id shell (shell.placeView view position)
    unfold placeView
    split
    · exact .refl shell
    · split <;> exact .of_popups rfl

end Spared

/-! ### Signals that leave a record alone -/

/-- What a view does touches no record but those it creates and forgets. -/
theorem deliverToView_spared (view : ViewId) {signal : Signal} (others : signal ≠ .newPopup id) :
    Spared id shell (shell.deliverToView view signal) := by
  cases signal with
  | commit =>
    cases live : shell.views.get? view with
    | none =>
      simp only [deliverToView, viewCommitted, live]
      exact .refl shell
    | some owner =>
      cases present : shell.surfaces.get? owner.surface with
      | none =>
        simp only [deliverToView, viewCommitted, live, present]
        exact .refl shell
      | some surface =>
        by_cases mapped : surface.mapped
        · rw [deliverToView, viewCommitted_of_mapped live present mapped]
          exact .trans (.trans (.changeView view _) (.land view _)) (.of_popups rfl)
        · rw [deliverToView, viewCommitted_of_hidden live present mapped]
          exact .refl shell
  | destroy =>
    simp only [deliverToView, viewDestroyed]
    split
    · exact .refl shell
    · refine (Spared.forgetView view).trans ?_
      split <;> exact .of_popups rfl
  | map =>
    simp only [deliverToView, viewMapped]
    split
    · exact .refl shell
    · split
      · exact .refl shell
      · split <;> exact .of_popups rfl
  | unmap =>
    simp only [deliverToView, viewUnmapped]
    split
    · exact .refl shell
    · split
      · exact .of_popups rfl
      · exact .refl shell
  | newPopup popup => exact .createPopup view fun same => others (same ▸ rfl)
  | requestMove | requestResize =>
    simp only [deliverToView]
    split <;> exact .of_popups rfl
  | requestMaximize | requestFullscreen => exact .of_popups rfl

/-- The record of another surface may change, but this one does not. -/
theorem deliverToPopup_spared {popup : PopupId} {record : Popup}
    (found : shell.popups.get? popup = some record) {signal : Signal}
    (others : signal ≠ .newPopup id)
    (elsewhere : signal = .map ∨ signal = .unmap → record.surface ≠ id) :
    Spared id shell (shell.deliverToPopup popup signal) := by
  simp only [deliverToPopup, found]
  cases signal with
  | map =>
    refine .trans (.changePopup found (elsewhere (.inl rfl)) ?_) (.of_popups rfl)
    rfl
  | unmap =>
    refine .trans (.changePopup found (elsewhere (.inr rfl)) ?_) (.of_popups rfl)
    rfl
  | destroy => exact .forgetPopup popup
  | newPopup surface => exact .createPopup record.view fun same => others (same ▸ rfl)
  | commit => exact .of_popups rfl
  | requestMove | requestResize | requestMaximize | requestFullscreen => exact .refl shell

/-- Only the map and the unmap of a surface change its record. -/
theorem emit_spared (sound : shell.Sound) {signal : Signal} (others : signal ≠ .newPopup id)
    (elsewhere : signal = .map ∨ signal = .unmap → origin ≠ id) :
    Spared id shell (shell.emit origin signal) := by
  rcases followed_or_unfollowed shell origin with ⟨target, wrapping, found, rfl⟩ | alone
  · rw [sound.emit_followed found]
    cases target with
    | view view => exact deliverToView_spared view others
    | popup popup =>
      obtain ⟨record, there, rfl⟩ := Option.map_eq_some_iff.mp found
      exact deliverToPopup_spared there others elsewhere
  · rw [emit_unfollowed sound.held alone]
    exact .refl shell

theorem removeSurface_spared (sound : shell.Sound) (other : origin ≠ id) :
    Spared id shell (shell.removeSurface origin) := by
  rcases removeSurface_cases shell origin with same | ⟨surface, hidden, found, frame, hides, removed⟩
  · rw [same]
    exact .refl shell
  · have stored : (shell.putSurface origin surface.hide).Sound :=
      sound.congr (putSurface_frame shell found rfl)
    have away : Spared id shell hidden := by
      rcases hides with rfl | rfl
      · exact .of_popups rfl
      · exact .trans (.of_popups rfl) (emit_spared stored (by simp) fun _ => other)
    rw [removed]
    exact (away.trans (emit_spared (sound.congr frame) (by simp) (by simp))).trans (.of_popups rfl)

theorem removeAll_spared (sound : shell.Sound) {ids : List SurfaceId} (kept : id ∉ ids) :
    Spared id shell (ids.foldl removeSurface shell) := by
  induction ids generalizing shell with
  | nil => exact .refl shell
  | cons first ids ih =>
    rw [List.mem_cons, not_or] at kept
    obtain ⟨other, later⟩ := kept
    exact (removeSurface_spared sound (Ne.symm other)).trans
      (ih ((removeSurface_moves sound first).sound sound) later)

theorem call_spared (view : ViewId) (call : WindowCall) : Spared id shell (shell.call view call) := by
  have carried := call_carried shell view call
  generalize shell.call view call = after at carried
  cases carried with
  | forget => exact .forgetView view
  | miss => exact .refl shell
  | close => exact .of_popups rfl
  | propose => exact .configure _ _ _
  | moveResize position size =>
    rw [moveResize_eq]
    exact .trans (.trans (.configure _ _ _) (.changeView view _)) (.land view _)

theorem followed_spared (sound : shell.Sound) {before after : Surface}
    (present : shell.surfaces.get? origin = some before)
    (bare : after.role.bare = before.role.bare) (other : origin ≠ id) (effect : CommitEffect) :
    Spared id shell (shell.followed origin after effect) := by
  have stored : (shell.putSurface origin after).Sound :=
    sound.congr (putSurface_frame shell present bare)
  have put : Spared id shell (shell.putSurface origin after) := .of_popups rfl
  cases effect with
  | settled => exact put
  | needsConfigure => exact .configure origin after true
  | mapped | unmapped => exact put.trans (emit_spared stored (by simp) fun _ => other)

/-- **Every act but a commit of a surface leaves the record on it alone**, if the surface stays. -/
theorem perform_spared (sound : shell.Sound) (roled : shell.Roled) (act : Act)
    {before after : Surface} (present : shell.surfaces.get? id = some before)
    (stays : (shell.perform act).shell.surfaces.get? id = some after)
    (other : ∀ commit, act ≠ .request (.commit id commit)) :
    Spared id shell (shell.perform act).shell := by
  cases act with
  | call view call => exact call_spared view call
  | request request =>
    cases request with
    | newToplevel origin =>
      rcases newToplevel_cases roled origin with ⟨fault, refused⟩ | ⟨new, taken⟩
      · rw [perform, handle, refused]
        exact .refl shell
      · have put : Spared id shell (shell.putSurface origin { role := .toplevel {} }) :=
          .of_popups rfl
        rw [perform, handle, taken]
        exact (put.trans (.ping origin)).trans (.createView origin)
    | newPopup origin parent geometry =>
      rcases newPopup_cases roled origin parent geometry with ⟨fault, refused⟩ | ⟨new, taken⟩
      · rw [perform, handle, refused]
        exact .refl shell
      · have differ : origin ≠ id := by
          rintro rfl
          rw [present] at new
          cases new
        have arrives : Move 0 shell (shell.putSurface origin { role := .popup parent geometry }) :=
          .surface origin _ new
        rw [perform, handle, taken]
        refine .trans (.of_popups rfl) (emit_spared (arrives.sound sound) ?_ (by simp))
        simpa using differ
    | setMinSize origin | setMaxSize origin | ack origin =>
      rw [perform, handle]
      rcases changeSurface_stores shell origin _ with kept | ⟨_, stored⟩
      · rw [kept]
        exact .refl shell
      · rw [stored]
        exact .of_popups rfl
    | commit origin commit =>
      have elsewhere : origin ≠ id := by
        rintro rfl
        exact other commit rfl
      rcases commit_cases shell origin commit with
        ⟨fault, refused⟩ | ⟨old, latched, effect, found, done, taken⟩
      · rw [perform, handle, refused]
        exact .refl shell
      · have bare := Surface.bare_commit done
        rw [perform, handle, taken]
        exact (followed_spared sound found bare elsewhere effect).trans
          (emit_spared (sound.congr (followed_frame shell effect found bare)) (by simp) (by simp))
    | move origin | resize origin | maximize origin | fullscreen origin =>
      rcases forward_cases shell origin _ with ⟨fault, refused⟩ | taken
      · rw [perform, handle, refused]
        exact .refl shell
      · rw [perform, handle, taken]
        exact emit_spared sound (by simp) (by simp)
    | destroy root =>
      obtain ⟨ids, gone⟩ := destroy_removes shell root
      rw [perform, handle, gone] at stays ⊢
      refine removeAll_spared sound fun member => ?_
      rw [removeAll_get?, if_pos member] at stays
      cases stays

end Sparing

/-! ### Records of surfaces that are committed -/

section Following

variable {shell : Shell} {id : SurfaceId} {popup : PopupId} {record : Popup}
  {before after surface : Surface} {commit : Commit} {effect : CommitEffect}

/-- A record follows its surface when that is shown or hidden, and the view at the root is damaged. -/
theorem followed_popup (sound : shell.Sound) (found : shell.popups.get? popup = some record)
    (present : shell.surfaces.get? record.surface = some before)
    (done : before.commit commit = .ok (after, effect)) :
    (shell.followed record.surface after effect).popups.get? popup =
        some { record with state := record.state.follow before.mapped after.mapped } ∧
      (shell.followed record.surface after effect).desktop.events = shell.desktop.events ++
        if after.mapped = before.mapped then [] else [.fullyDamaged record.view] := by
  have there : (shell.putSurface record.surface after).popups.get? popup = some record := found
  have stored : (shell.putSurface record.surface after).Sound :=
    sound.congr (putSurface_frame shell present (Surface.bare_commit done))
  have visibility := Surface.commit_effect done
  cases effect with
  | settled =>
    rw [show after.mapped = before.mapped from visibility, PopupState.follow_self, if_pos rfl]
    exact ⟨found, (List.append_nil _).symm⟩
  | needsConfigure =>
    rw [show after.mapped = before.mapped from visibility, PopupState.follow_self, if_pos rfl,
      List.append_nil, followed]
    rcases configure_cases shell record.surface after true with ⟨-, kept⟩ | ⟨_, _, _, -, kept⟩ <;>
      rw [kept] <;> exact ⟨found, rfl⟩
  | mapped | unmapped =>
    obtain ⟨was, now⟩ := visibility
    rw [followed, stored.emit_popup there, deliverToPopup, there, was, now]
    refine ⟨?_, rfl⟩
    show (shell.popups.modify popup _).get? popup = _
    rw [Table.get?_modify, if_pos rfl, found]
    rfl

/-- **What a commit makes of the record of a popup**, and what the desktop is told. -/
theorem commit_popup (sound : shell.Sound) (found : shell.popups.get? popup = some record)
    (present : shell.surfaces.get? record.surface = some before)
    (done : before.commit commit = .ok (after, effect)) :
    (shell.commit record.surface commit).shell.popups.get? popup =
        some { record with state := record.state.follow before.mapped after.mapped } ∧
      (shell.commit record.surface commit).shell.desktop.events = shell.desktop.events ++
        (if after.mapped = before.mapped then [] else [.fullyDamaged record.view]) ++
          [.damaged record.view] := by
  obtain ⟨there, told⟩ := followed_popup sound found present done
  have announced : (shell.followed record.surface after effect).Sound :=
    sound.congr (followed_frame shell effect present (Surface.bare_commit done))
  have heard := announced.emit_popup there .commit
  rw [deliverToPopup, there] at heard
  rw [commit_of_ok present done, accept, heard, ← told]
  exact ⟨there, rfl⟩

/-- A commit of a surface that nothing follows is between the client and the surface. -/
theorem commit_unheard (sound : shell.Sound) (alone : shell.Unfollowed id) (commit : Commit) :
    ∃ surfaces serials outbox,
      (shell.commit id commit).shell = { shell with surfaces, serials, outbox } := by
  rcases commit_cases shell id commit with
    ⟨fault, refused⟩ | ⟨before, after, effect, present, done, taken⟩
  · exact ⟨shell.surfaces, shell.serials, shell.outbox, by rw [refused, reject]⟩
  have unheard : ∀ {middle : Shell}, middle.frame = shell.frame → ∀ signal,
      middle.emit id signal = middle := by
    intro middle same signal
    exact emit_unfollowed (sound.congr same).held (alone.congr same) signal
  have bare := Surface.bare_commit done
  have stored := putSurface_frame shell present bare
  rw [taken, accept, unheard (followed_frame shell effect present bare)]
  cases effect with
  | settled => exact ⟨_, _, _, rfl⟩
  | needsConfigure =>
    rw [followed]
    rcases configure_cases shell id after true with ⟨-, kept⟩ | ⟨_, _, _, -, kept⟩ <;> rw [kept] <;>
      exact ⟨_, _, _, rfl⟩
  | mapped | unmapped =>
    rw [followed, unheard stored]
    exact ⟨_, _, _, rfl⟩

/-- A commit of a surface that nothing follows goes unnoticed. -/
theorem commit_unfollowed (sound : shell.Sound) (alone : shell.Unfollowed id) (commit : Commit) :
    (shell.commit id commit).shell.desktop = shell.desktop := by
  obtain ⟨_, _, _, same⟩ := commit_unheard sound alone commit
  rw [same]

/-- **A record follows its surface**, whatever act there is. -/
theorem perform_popup (sound : shell.Sound) (roled : shell.Roled)
    (sorted : Lineage.ParentsFirst shell.lineage) (act : Act)
    (present : shell.surfaces.get? id = some before)
    (stays : (shell.perform act).shell.surfaces.get? id = some after)
    (found : (shell.perform act).shell.popups.get? popup = some record)
    (wraps : record.surface = id) :
    ∃ old, shell.popups.get? popup = some old ∧ old.surface = id ∧
      record.state = old.state.follow before.mapped after.mapped := by
  by_cases carried : (∃ commit, act = .request (.commit id commit)) ∧ (shell.perform act).fault = none
  · obtain ⟨⟨commit, rfl⟩, accepted⟩ := carried
    obtain ⟨latched, effect, done⟩ := commit_of_accepted present accepted
    obtain ⟨inflight, stored⟩ := commit_stored present done
    obtain rfl := Option.some.inj (stored.symm.trans stays)
    obtain ⟨old, there, core⟩ := popup_of_frame (commit_frame id commit) found
    obtain rfl : old.surface = id := (Popup.surface_of_core core).trans wraps
    obtain ⟨follows, -⟩ := commit_popup sound there present done
    obtain rfl := Option.some.inj (follows.symm.trans found)
    exact ⟨old, there, rfl, rfl⟩
  · have still : after.mapped = before.mapped ∧ shell.popups.get? popup = some record := by
      by_cases accepted : (shell.perform act).fault = none
      · have other : ∀ commit, act ≠ .request (.commit id commit) := fun commit same =>
          carried ⟨⟨commit, same⟩, accepted⟩
        obtain ⟨sent, -, turn⟩ := perform_turn roled act id
        rw [present, stays] at turn
        exact ⟨(turn.content other).1,
          perform_spared sound roled act present stays other popup record found wraps⟩
      · rw [perform_rejected sorted accepted] at stays found
        obtain rfl := Option.some.inj (present.symm.trans stays)
        exact ⟨rfl, found⟩
    obtain ⟨same, there⟩ := still
    exact ⟨record, there, wraps, by rw [same, PopupState.follow_self]⟩

/-- A record on a new surface is new as well. -/
theorem appears_popup (sound : shell.Sound) (roled : shell.Roled) {act : Act}
    (creates : shell.Creates id act) (found : (shell.perform act).shell.popups.get? popup = some record)
    (wraps : record.surface = id) : record.state = .created := by
  obtain ⟨absent, there⟩ := creates
  obtain ⟨surface, present⟩ := Option.isSome_iff_exists.mp there
  have free : ∀ {popup record}, shell.popups.get? popup = some record → record.surface ≠ id :=
    fun {popup record} old => sound.unfollowed absent (.popup popup) record.wrapping
      (by rw [wrapping?, old]; rfl)
  obtain ⟨sent, -, turn⟩ := perform_turn roled act id
  rw [absent, present] at turn
  cases turn with
  | window =>
    -- the record would have to be on a popup
    obtain ⟨window, same, fits⟩ := (perform_sound sound roled _).popup_fits found
    rw [wraps, present] at same
    obtain rfl := Option.some.inj same
    cases fits
  | popup parent geometry =>
    rcases newPopup_cases roled id parent geometry with ⟨fault, refused⟩ | ⟨new, taken⟩
    · rw [perform, handle, refused] at found
      exact absurd wraps (free found)
    have arrives : Move 0 shell (shell.putSurface id { role := .popup parent geometry }) :=
      .surface id _ new
    rw [perform, handle, taken, accept] at found
    rcases announce_cases (arrives.sound sound) parent id with same | ⟨view, attached, -⟩
    · rw [same] at found
      exact absurd wraps (free found)
    · rw [attached] at found
      rcases createPopup_popup _ found with old | ⟨listeners, rfl⟩
      · exact absurd wraps (free old)
      · rfl

end Following

/-! ### Records along the lifetime of a surface -/

/-- At some point of a run a surface is visible. -/
def EverShown (shell : Shell) (id : SurfaceId) (acts : List Act) : Prop :=
  ∃ early, early <+: acts ∧ (shell.performAll early).shows id

section Telling

variable {start shell : Shell} {id : SurfaceId} {acts front life : List Act} {act : Act}
  {popup : PopupId} {record : Popup} {surface : Surface}

theorem everShown_nil : shell.EverShown id [] ↔ shell.shows id := by
  simp [EverShown]

theorem everShown_snoc : shell.EverShown id (acts ++ [act]) ↔
    shell.EverShown id acts ∨ ((shell.performAll acts).perform act).shell.shows id := by
  simp only [EverShown, List.prefix_concat_iff, or_and_right, exists_or, exists_eq_left,
    performAll_append, performAll_cons, performAll_nil, or_comm]

/-- **A record tells what became of its surface.** -/
theorem Lifetime.tells (current : Lifetime start id acts front life) (begins : Reached 0 start)
    (present : (start.performAll acts).surfaces.get? id = some surface)
    (found : (start.performAll acts).popups.get? popup = some record) (wraps : record.surface = id) :
    record.state.Tells surface.mapped ((start.performAll front).EverShown id life) := by
  obtain ⟨earlier, creating, rfl, creates⟩ := current.created
  have follows := Lifetime.induction
    (motive := fun life surface => ∀ record,
      ((start.performAll (earlier ++ [creating])).performAll life).popups.get? popup = some record →
        record.surface = id → record.state.Tells surface.mapped
          ((start.performAll (earlier ++ [creating])).EverShown id life))
    current begins.roled present ?new ?continues
  · rw [current.split, performAll_append] at found
    exact follows record found wraps
  case new =>
    intro role record found wraps
    rw [performAll_nil, performAll_append] at found
    have reached := begins.performAll earlier
    obtain ⟨first, there⟩ := Option.isSome_iff_exists.mp creates.2
    obtain ⟨_, rfl⟩ := creates.new reached.roled there
    rw [appears_popup reached.sound reached.roled creates found wraps]
    refine PopupState.tells_created ?_
    rw [everShown_nil, performAll_append, performAll_cons, performAll_nil, shows_of_present there]
    exact Bool.false_ne_true
  case continues =>
    intro life act before after roled present stays ih record found wraps
    rw [performAll_append] at found
    have reached := (begins.performAll (earlier ++ [creating])).performAll life
    obtain ⟨old, there, same, state⟩ :=
      perform_popup reached.sound roled reached.parentsFirst act present stays found wraps
    have known : before.mapped → (start.performAll (earlier ++ [creating])).EverShown id life :=
      fun visible => ⟨life, List.prefix_rfl, by rwa [shows_of_present present]⟩
    have tells := (ih old there same).follow known after.mapped
    rwa [everShown_snoc, shows_of_present stays, state]

end Telling

/-! ### Damage -/

/-- Whatever damage a shell records on its way to another concerns the view at the root of a surface. -/
def DamagesRoot (shell : Shell) (id : SurfaceId) (after : Shell) : Prop :=
  ∃ more, after.desktop.events = shell.desktop.events ++ more ∧
    ∀ event ∈ more, event.Damages → shell.RootView id event.view

section Damaging

variable {shell after : Shell} {count : Nat} {id root : SurfaceId} {surface : Surface}

theorem DamagesRoot.silent (same : after.desktop = shell.desktop) : shell.DamagesRoot id after :=
  ⟨[], by rw [same, List.append_nil], nofun⟩

/-- A commit of a popup damages the view at the root, which is the one that its record names. -/
theorem commit_damagesRoot (sound : shell.Sound) (flat : shell.Flat)
    (present : shell.surfaces.get? id = some surface) (fits : surface.isPopup) (commit : Commit) :
    shell.DamagesRoot id (shell.commit id commit).shell := by
  rcases followed_or_unfollowed shell id with ⟨target, wrapping, found, rfl⟩ | alone
  swap
  · exact .silent (commit_unfollowed sound alone commit)
  cases target with
  | view view =>
    obtain ⟨record, live, rfl⟩ := Option.map_eq_some_iff.mp found
    obtain ⟨window, there, toplevel⟩ := sound.view_fits live
    obtain rfl := Option.some.inj (present.symm.trans there)
    obtain ⟨state, role⟩ := Surface.isToplevel_iff.mp toplevel
    rw [Surface.isPopup, role] at fits
    cases fits
  | popup popup =>
    obtain ⟨record, there, rfl⟩ := Option.map_eq_some_iff.mp found
    have rooted : shell.RootView record.surface record.view := (flat popup record there).rootView
    cases done : surface.commit commit with
    | error cause =>
      refine .silent ?_
      rw [commit_of_error present done, reject]
    | ok taken =>
      obtain ⟨-, told⟩ := commit_popup sound there present done
      refine ⟨_, told.trans (List.append_assoc _ _ _), fun event member damages => ?_⟩
      suffices about : event.view = record.view by rwa [about]
      rw [List.mem_append, List.mem_singleton] at member
      rcases member with shown | rfl
      · split at shown
        · cases shown
        · rw [List.mem_singleton.mp shown, Event.view]
      · rfl

/-- A view that goes is not damaged. -/
theorem undamaged_farewell {event : Event} (member : event ∈ shell.farewell id) : ¬ event.Damages := by
  intro damages
  unfold farewell at member
  split at member
  · cases member
  · rw [List.mem_append, List.mem_singleton] at member
    rcases member with shown | rfl
    · split at shown
      · rw [List.mem_singleton.mp shown] at damages
        exact damages
      · cases shown
    · exact damages

/-- So does its destruction, and that of every popup below it. -/
theorem destroy_damagesRoot (reached : Reached count shell) (short : count < 2 ^ 32 - 1)
    (root : SurfaceId) : shell.DamagesRoot root (shell.destroy root).shell := by
  cases present : shell.surfaces.get? root with
  | none =>
    rw [destroy_of_absent present]
    exact .silent rfl
  | some surface =>
    obtain ⟨damaged, -, which, rooted, told⟩ := (destroy_felled reached short present).told
    refine ⟨_, told.trans (List.append_assoc _ _ _), fun event member damages => ?_⟩
    rcases List.mem_append.mp member with below | parting
    · obtain ⟨⟨other, view⟩, listed, rfl⟩ := List.mem_map.mp below
      exact (rooted other view listed).above ((which other view).mp listed).1
    · exact absurd damages (undamaged_farewell parting)

end Damaging

/-! ### Popups at any time -/

/-- **What is true of a popup record** at the end of a run. -/
structure Truthful (start : Shell) (acts : List Act) (record : Popup) : Prop where
  /-- From its surface the parents lead, past surfaces with records of the same view, to the window of
  this view. -/
  anchored : (start.performAll acts).Anchored record.view record.surface
  /-- Its surface is there, and was created in the run. -/
  lives : ∃ surface front life, (start.performAll acts).surfaces.get? record.surface = some surface ∧
    Lifetime start record.surface acts front life
  /-- Its state tells what became of the surface since then. -/
  tells : ∀ surface front life, (start.performAll acts).surfaces.get? record.surface = some surface →
    Lifetime start record.surface acts front life →
      record.state.Tells surface.mapped ((start.performAll front).EverShown record.surface life)

section Popups

variable {start : Shell} {acts : List Act}

theorem Reached.truthful (begins : Reached 0 start) (short : acts.length < 2 ^ 32 - 1)
    {popup : PopupId} {record : Popup}
    (found : (start.performAll acts).popups.get? popup = some record) :
    Truthful start acts record := by
  have reached := begins.performAll acts
  obtain ⟨surface, present, -⟩ := reached.sound.popup_fits found
  obtain ⟨front, life, current⟩ := lifetime_exists (begins.untouched record.surface) acts present
  refine ⟨reached.flat (by omega) popup record found, ⟨surface, front, life, present, current⟩, ?_⟩
  exact fun surface front life present current => current.tells begins present found rfl

/-- **Popups hang on the right root, and their records tell the truth.** In fewer acts than there are
identifiers, every popup record names the view that its surface is anchored to, and its state tells
whether this surface is visible and whether it ever was. What is damaged when a popup is committed is
the view at its root, and so it is when a surface is destroyed. -/
theorem popups_are_flat (begins : Reached 0 start) (acts : List Act)
    (short : acts.length < 2 ^ 32 - 1) :
    (∀ popup record, (start.performAll acts).popups.get? popup = some record →
        Truthful start acts record) ∧
      (∀ id surface commit, (start.performAll acts).surfaces.get? id = some surface →
        surface.isPopup → (start.performAll acts).DamagesRoot id
          ((start.performAll acts).perform (.request (.commit id commit))).shell) ∧
      ∀ id, (start.performAll acts).DamagesRoot id
        ((start.performAll acts).perform (.request (.destroy id))).shell := by
  have reached := begins.performAll acts
  refine ⟨fun popup record found => begins.truthful short found, fun id surface commit present fits => ?_,
    fun id => ?_⟩
  · exact commit_damagesRoot reached.sound (reached.flat (by omega)) present fits commit
  · exact destroy_damagesRoot reached (by omega) id

/-- The popup on the popup of the first window has been visible ever since it was shown, and its record
names the view of this window. That view is damaged when the popup goes along with its parent. -/
theorem popups_are_flat_nestedPopups :
    ∃ shell, shell = (fresh { pingOnCreate := false } .empty 0).performAll nestedPopups ∧
      (∃ record, shell.popups.get? ⟨2⟩ = some record ∧ record.surface = ⟨3⟩ ∧ record.state = .mapped ∧
        shell.Anchored ⟨1⟩ ⟨3⟩) ∧
      shell.DamagesRoot ⟨2⟩ (shell.destroy ⟨2⟩).shell ∧
      (shell.destroy ⟨2⟩).shell.desktop.events =
        shell.desktop.events ++ [.fullyDamaged ⟨1⟩, .fullyDamaged ⟨1⟩] := by
  have told : (((fresh { pingOnCreate := false } .empty 0).performAll nestedPopups).destroy
      ⟨2⟩).shell.desktop.events =
        ((fresh { pingOnCreate := false } .empty 0).performAll nestedPopups).desktop.events ++
          [.fullyDamaged ⟨1⟩, .fullyDamaged ⟨1⟩] := by decide +kernel
  have child : (((fresh { pingOnCreate := false } .empty 0).performAll nestedPopups).popups.get?
      ⟨2⟩).map (fun record => (record.view, record.surface)) = some (⟨1⟩, ⟨3⟩) := by decide +kernel
  have visible : ((fresh { pingOnCreate := false } .empty 0).performAll nestedPopups).shows ⟨3⟩ := by
    decide +kernel
  obtain ⟨truthful, -, damages⟩ :=
    popups_are_flat (.fresh 0 { pingOnCreate := false } .empty 0) nestedPopups (by decide)
  obtain ⟨⟨view, window, state, listeners⟩, found, named⟩ := Option.map_eq_some_iff.mp child
  cases named
  obtain ⟨anchored, ⟨shown, front, life, there, current⟩, tells⟩ := truthful ⟨2⟩ _ found
  have seen := shows_of_present there
  have mapped : state = .mapped :=
    (tells shown front life there current).mapped (seen.symm.trans visible)
  exact ⟨_, rfl, ⟨_, found, rfl, mapped, anchored⟩, damages ⟨2⟩, told⟩

end Popups

end Shell

end WindowShell
