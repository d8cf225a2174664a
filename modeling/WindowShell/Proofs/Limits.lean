/-
**The limits hold.**

Three parties act on a shell: the client, window management, and the desktop, which changes what its seats
are doing and declines as many of the next views as it likes. Nothing that happens changes the settings. A
step that creates nothing leaves no more views than there were, and no more popups on any of them; and a
step that creates something checks the limit first:

* `perform_eq_apply`: what an act does is what a step does, or nothing;
* `Sane.undergoAll`: what every run keeps, whatever the desktop does in between;
* `createView_of_declined`, `createView_of_granted`, `createPopup_of_full`, `createPopup_of_room`: when a
  record is created, and when it is not;
* `Moves.shrinks`: where nothing is created, no view gets another popup;
* `WithinLimits.apply`, `WithinLimits.undergoAll`: **the limits hold** throughout a run.
-/

import WindowShell.Proofs.Isolation

namespace WindowShell

/-- Something that happens to a shell or to the desktop around it. -/
inductive Happening
  /-- The client or window management acts. -/
  | act (act : Act)
  /-- The desktop gives its seats other modes, and will decline so many of the next views. -/
  | desktop (seats : Table SeatId SeatMode) (refusals : Nat)
deriving DecidableEq

/-- Whether the client or window management acts. -/
def Happening.isAct : Happening → Bool
  | act _ => true
  | desktop _ _ => false

/-- How many of the happenings are acts. -/
def actCount (happenings : List Happening) : Nat := happenings.countP Happening.isAct

theorem actCount_cons (happening : Happening) (happenings : List Happening) :
    actCount (happening :: happenings) = actCount [happening] + actCount happenings := by
  show ([happening] ++ happenings).countP Happening.isAct = _
  rw [List.countP_append, actCount, actCount]

namespace Step

/-- The step that is a request. -/
def ofRequest : Request → Step
  | .newToplevel surface => newToplevel surface
  | .newPopup surface parent geometry => newPopup surface parent geometry
  | .setMinSize surface size => setMinSize surface size
  | .setMaxSize surface size => setMaxSize surface size
  | .ack surface serial => ack surface (some serial)
  | .commit surface { buffer := .keep, geometry } => commit surface none false geometry
  | .commit surface { buffer := .attach size, geometry } => commit surface (some size) false geometry
  | .commit surface { buffer := .remove, geometry } => commit surface none true geometry
  | .move surface seat => requestMove surface seat
  | .resize surface seat edges => requestResize surface seat edges
  | .maximize surface maximized => requestMaximize surface maximized
  | .fullscreen surface full output => requestFullscreen surface full output
  | .destroy surface => destroy surface

/-- The step that is a call on the view of a window. -/
def ofCall (surface : SurfaceId) : WindowCall → Step
  | .activate active => activate surface active
  | .resize size => resize surface size
  | .moveResize position size => moveResize surface position size
  | .maximize maximized => maximize surface maximized
  | .fullscreen full => fullscreen surface full
  | .close => close surface
  | .destroy => destroyView surface

end Step

namespace Shell

/-- The shell after something happened. -/
def undergo (shell : Shell) : Happening → Shell
  | .act act => (shell.perform act).shell
  | .desktop seats refusals => shell.changeDesktop fun desktop => { desktop with seats, refusals }

/-- The shell after happenings, in order. -/
def undergoAll (shell : Shell) (happenings : List Happening) : Shell := happenings.foldl undergo shell

/-- **The limits of some settings hold**: these are the settings, there are at most so many views, and at
most so many popups on each. -/
structure WithinLimits (settings : Settings) (shell : Shell) : Prop where
  stand : shell.settings = settings
  views : 0 < settings.maxViews → shell.views.size ≤ settings.maxViews
  popups : 0 < settings.maxPopupsPerView → ∀ id view, shell.views.get? id = some view →
    view.popups.length ≤ settings.maxPopupsPerView

/-- **What every run keeps.** Every surface has a role, views and popups wrap surfaces soundly and are linked
with each other, and parents arrived before their children. -/
structure Sane (count : Nat) (shell : Shell) : Prop where
  roled : shell.Roled
  sound : shell.Sound
  linked : Linked count shell
  sorted : Lineage.ParentsFirst shell.lineage

/-- There are as many views as there may be. -/
def ViewsFull (shell : Shell) : Prop :=
  0 < shell.settings.maxViews ∧ shell.settings.maxViews ≤ shell.views.size

instance (shell : Shell) : Decidable shell.ViewsFull := inferInstanceAs (Decidable (_ ∧ _))

/-- A view has as many popups as it may have. -/
def PopupsFull (shell : Shell) (view : View) : Prop :=
  0 < shell.settings.maxPopupsPerView ∧ shell.settings.maxPopupsPerView ≤ view.popups.length

instance (shell : Shell) (view : View) : Decidable (shell.PopupsFull view) :=
  inferInstanceAs (Decidable (_ ∧ _))

/-- **A view is refused**: the limit is reached, or the desktop declines. -/
def DeclinesView (shell : Shell) : Prop := shell.ViewsFull ∨ 0 < shell.desktop.refusals

instance (shell : Shell) : Decidable shell.DeclinesView := inferInstanceAs (Decidable (_ ∨ _))

/-- **From one shell to another views shrink**: none is new, and none has more popups than before. -/
def Shrinks (before after : Shell) : Prop :=
  ∀ id view, after.views.get? id = some view →
    ∃ old, before.views.get? id = some old ∧ view.popups.length ≤ old.popups.length

/-! ### Runs -/

section Runs

variable {shell : Shell} {count : Nat}

theorem apply_ofRequest (shell : Shell) (request : Request) :
    shell.apply (.ofRequest request) = shell.handle request := by
  rcases request with _ | _ | _ | _ | _ | ⟨surface, ⟨_ | _ | _, geometry⟩⟩ | _ <;> rfl

theorem apply_ofCall (shell : Shell) (surface : SurfaceId) (call : WindowCall) :
    shell.apply (.ofCall surface call) = shell.callOf surface call := by
  cases call <;> rfl

/-- A call on a view that is not there does nothing. -/
theorem call_of_absent {view : ViewId} (absent : shell.views.get? view = none) (call : WindowCall) :
    shell.call view call = shell := by
  have nowhere : shell.window? view = none := by
    rw [window?, absent]
    rfl
  cases call with
  | destroy => exact forgetView_of_none shell absent
  | _ => simp only [Shell.call, onWindow, nowhere]

/-- **What an act does is what a step does**, or nothing. -/
theorem perform_eq_apply (sound : shell.Sound) (act : Act) :
    (shell.perform act).shell = shell ∨ ∃ step, (shell.perform act).shell = (shell.apply step).shell := by
  cases act with
  | request request => exact .inr ⟨.ofRequest request, by rw [apply_ofRequest, perform]⟩
  | call view call =>
    cases live : shell.views.get? view with
    | none => exact .inl (call_of_absent live call)
    | some record =>
      refine .inr ⟨.ofCall record.surface call, ?_⟩
      rw [apply_ofCall, callOf, sound.viewOf?_eq live, perform]

namespace Sane

theorem fresh (settings : Settings) (seats : Table SeatId SeatMode) (refusals : Nat) :
    Sane 0 (Shell.fresh settings seats refusals) where
  roled := fresh_roled settings seats refusals
  sound := fresh_sound settings seats refusals
  linked := linked_fresh 0 settings seats refusals
  sorted := .nil

theorem whole (sane : Sane count shell) (small : count + 1 < 2 ^ 32) : Whole count shell :=
  ⟨sane.sound, sane.linked, small⟩

theorem perform (sane : Sane count shell) (small : count + 1 < 2 ^ 32) (act : Act) :
    Sane (count + 1) (shell.perform act).shell where
  roled := perform_roled sane.roled act
  sound := perform_sound sane.sound sane.roled act
  linked := by
    obtain ⟨births, few, moves⟩ := perform_moves sane.sound sane.roled act
    exact (sane.linked.moves moves (by omega)).mono (by omega)
  sorted := (perform_reshapes sane.roled sane.sorted act).parentsFirst sane.sorted

theorem apply (sane : Sane count shell) (small : count + 1 < 2 ^ 32) (step : Step) :
    Sane (count + 1) (shell.apply step).shell := by
  rw [apply_shell, Shell.after]
  cases shell.act? step with
  | none => exact { sane with linked := sane.linked.mono (Nat.le_succ count) }
  | some act => exact sane.perform small act

theorem undergo (sane : Sane count shell) (happening : Happening)
    (small : count + actCount [happening] < 2 ^ 32) :
    Sane (count + actCount [happening]) (shell.undergo happening) := by
  cases happening with
  | act act => exact sane.perform small act
  | desktop seats refusals =>
    exact ⟨sane.roled, sane.sound.congr rfl, sane.linked.congr rfl, sane.sorted⟩

/-- **A run keeps a shell sane**, whatever the desktop does in between. -/
theorem undergoAll (sane : Sane count shell) (happenings : List Happening)
    (small : count + actCount happenings < 2 ^ 32) :
    Sane (count + actCount happenings) (shell.undergoAll happenings) := by
  induction happenings generalizing count shell with
  | nil => exact sane
  | cons happening happenings ih =>
    rw [actCount_cons, ← Nat.add_assoc] at small ⊢
    exact ih (sane.undergo happening (by omega)) small

end Sane

end Runs

/-! ### Whether a record is created -/

section Creation

variable {shell : Shell} {surface : SurfaceId} {view : ViewId} {record : View}

theorem fits_iff {limit count : Nat} : Settings.fits limit count ↔ ¬ (0 < limit ∧ limit ≤ count) := by
  rw [Settings.fits, Bool.or_eq_true, decide_eq_true_eq, decide_eq_true_eq]
  omega

/-- Where a view is refused, nothing changes but how many more the desktop declines. -/
theorem createView_of_declined (declined : shell.DeclinesView) (surface : SurfaceId) :
    ∃ refusals, shell.createView surface =
      { shell with desktop := { shell.desktop with refusals } } := by
  unfold createView
  split
  · next room =>
    cases waiting : shell.desktop.refusals with
    | zero =>
      rcases declined with full | declines
      · exact absurd full (fits_iff.mp room)
      · omega
    | succ remaining =>
      simp only [Desktop.createView, waiting]
      exact ⟨remaining, rfl⟩
  · exact ⟨shell.desktop.refusals, rfl⟩

theorem createView_of_granted (granted : ¬ shell.DeclinesView) :
    shell.createView surface = shell.withView surface := by
  obtain ⟨room, willing⟩ := not_or.mp granted
  have none : shell.desktop.refusals = 0 := Nat.eq_zero_of_not_pos willing
  rw [createView, if_pos (show shell.settings.viewFits shell.views.size from fits_iff.mpr room), withView,
    nextView]
  simp only [Desktop.createView, none]

theorem createPopup_of_full (live : shell.views.get? view = some record)
    (full : shell.PopupsFull record) : shell.createPopup view surface = shell := by
  simp only [createPopup, live]
  rw [if_neg]
  exact fun room => fits_iff.mp room full

theorem createPopup_of_room (live : shell.views.get? view = some record)
    (room : ¬ shell.PopupsFull record) :
    shell.createPopup view surface = shell.withPopup view surface := by
  simp only [createPopup, live]
  rw [if_pos (show shell.settings.popupFits record.popups.length from fits_iff.mpr room)]
  rfl

end Creation

/-! ### Nothing is added where nothing is created -/

section Shrinking

variable {births count : Nat} {first second third before after shell : Shell}

theorem Shrinks.refl (shell : Shell) : Shrinks shell shell := fun _ view live =>
  ⟨view, live, Nat.le_refl _⟩

theorem Shrinks.trans (early : Shrinks first second) (late : Shrinks second third) :
    Shrinks first third := by
  intro id view live
  obtain ⟨middle, there, fewer⟩ := late id view live
  obtain ⟨old, present, more⟩ := early id middle there
  exact ⟨old, present, Nat.le_trans fewer more⟩

theorem forgetPopup_shrinks (shell : Shell) (popup : PopupId) : Shrinks shell (shell.forgetPopup popup) := by
  cases found : shell.popups.get? popup with
  | none =>
    rw [forgetPopup_of_none shell found]
    exact .refl shell
  | some record =>
    rw [forgetPopup_of_some shell found]
    intro id view live
    rw [Table.get?_modify] at live
    split at live
    · obtain ⟨old, there, rfl⟩ := Option.map_eq_some_iff.mp live
      exact ⟨old, there, List.length_filter_le _ _⟩
    · exact ⟨view, live, Nat.le_refl _⟩

theorem forgetPopups_shrinks (ids : List PopupId) (shell : Shell) :
    Shrinks shell (ids.foldl forgetPopup shell) := by
  induction ids generalizing shell with
  | nil => exact .refl shell
  | cons id ids ih => exact (forgetPopup_shrinks shell id).trans (ih _)

theorem forgetView_shrinks (shell : Shell) (view : ViewId) : Shrinks shell (shell.forgetView view) := by
  cases found : shell.views.get? view with
  | none =>
    rw [forgetView_of_none shell found]
    exact .refl shell
  | some record =>
    rw [forgetView_of_some shell found]
    refine Shrinks.trans ?_ (forgetPopups_shrinks record.popups _)
    intro id kept live
    rw [dropView, Table.get?_erase] at live
    split at live
    · cases live
    · exact ⟨kept, live, Nat.le_refl _⟩

theorem Move.shrinks (move : Move births before after) (none : births = 0) : Shrinks before after := by
  cases move with
  | alike same =>
    intro id view live
    obtain ⟨old, there, core⟩ := view_of_frame same live
    exact ⟨old, there, Nat.le_of_eq (congrArg List.length (View.popups_of_core core).symm)⟩
  | surface | vanish => exact .refl _
  | createView | createPopup => cases none
  | forgetPopup id => exact forgetPopup_shrinks before id
  | forgetView id => exact forgetView_shrinks before id

/-- **No view gets another popup** where nothing is created. -/
theorem Moves.shrinks (moves : Moves births before after) (none : births = 0) :
    Shrinks before after := by
  induction moves with
  | refl => exact .refl _
  | tail _ move ih =>
    obtain ⟨first, last⟩ := Nat.add_eq_zero_iff.mp none
    exact (ih first).trans (move.shrinks last)

/-- **A step that creates nothing thins a shell out**: it stays within the region that is everything. -/
theorem apply_thins (whole : Whole count shell) (sorted : Lineage.ParentsFirst shell.lineage)
    {step : Step} (keeps : ¬ step.Creates) :
    Thins shell (shell.apply step).shell ∧ Moves 0 shell (shell.apply step).shell := by
  have closed : Closed ⟨fun _ => True, fun _ => True⟩ shell :=
    ⟨fun _ _ _ => .rfl, fun _ _ _ => .rfl, fun _ _ _ => .rfl⟩
  obtain ⟨_, _, within⟩ := apply_within whole sorted closed keeps trivial
  exact ⟨within.thins, within.moves⟩

end Shrinking

/-! ### The limits -/

section Limits

variable {settings : Settings} {shell before after : Shell} {count : Nat}

namespace WithinLimits

theorem congr (limits : WithinLimits settings before) (kept : after.settings = before.settings)
    (same : after.views = before.views) : WithinLimits settings after where
  stand := kept.trans limits.stand
  views := by
    rw [same]
    exact limits.views
  popups := by
    rw [same]
    exact limits.popups

theorem thins (limits : WithinLimits settings before) (thins : Thins before after)
    (shrinks : Shrinks before after) : WithinLimits settings after where
  stand := thins.settings.trans limits.stand
  views limited := by
    have fewer := thins.viewOrder.length_le
    rw [← Table.size_eq_length_keys, ← Table.size_eq_length_keys] at fewer
    exact Nat.le_trans fewer (limits.views limited)
  popups limited id view live := by
    obtain ⟨old, there, fewer⟩ := shrinks id view live
    exact Nat.le_trans fewer (limits.popups limited id old there)

/-- A view is created only where there is room for it. -/
theorem createView (limits : WithinLimits settings shell) (surface : SurfaceId) :
    WithinLimits settings (shell.createView surface) := by
  by_cases declined : shell.DeclinesView
  · obtain ⟨refusals, same⟩ := createView_of_declined declined surface
    rw [same]
    exact limits.congr rfl rfl
  rw [createView_of_granted declined]
  refine ⟨limits.stand, fun limited => ?_, fun limited id view live => ?_⟩
  · obtain rfl := limits.stand
    have room : shell.views.size < shell.settings.maxViews :=
      Nat.lt_of_not_le fun full => declined (.inl ⟨limited, full⟩)
    exact Nat.le_trans (Table.size_insert_le ..) room
  · rw [withView, Table.get?_insert] at live
    split at live
    · obtain rfl := Option.some.inj live
      exact Nat.zero_le _
    · exact limits.popups limited id view live

/-- A popup is created only where there is room for it. -/
theorem createPopup (limits : WithinLimits settings shell) (view : ViewId) (surface : SurfaceId) :
    WithinLimits settings (shell.createPopup view surface) := by
  cases live : shell.views.get? view with
  | none =>
    rw [Shell.createPopup, live]
    exact limits
  | some record =>
    by_cases full : shell.PopupsFull record
    · rwa [createPopup_of_full live full]
    rw [createPopup_of_room live full]
    refine ⟨limits.stand, fun limited => ?_, fun limited id other there => ?_⟩
    · rw [withPopup, Table.size_modify]
      exact limits.views limited
    · rw [withPopup, Table.get?_modify] at there
      split at there
      · next same =>
        rw [same, live] at there
        obtain rfl := Option.some.inj there
        obtain rfl := limits.stand
        have room : record.popups.length < shell.settings.maxPopupsPerView :=
          Nat.lt_of_not_le fun more => full ⟨limited, more⟩
        rwa [List.length_append, List.length_singleton]
      · exact limits.popups limited id other there

theorem ping (limits : WithinLimits settings shell) (surface : SurfaceId) :
    WithinLimits settings (shell.ping surface) := by
  unfold Shell.ping
  split
  · exact limits.congr rfl rfl
  · exact limits

/-- **A step stays within the limits.** -/
theorem apply (limits : WithinLimits settings shell) (sane : Sane count shell)
    (small : count + 1 < 2 ^ 32) (step : Step) : WithinLimits settings (shell.apply step).shell := by
  by_cases creates : step.Creates
  swap
  · obtain ⟨thins, moves⟩ := apply_thins (sane.whole small) sane.sorted creates
    exact limits.thins thins (moves.shrinks rfl)
  cases step with
  | newToplevel id =>
    rw [Shell.apply, handle]
    rcases newToplevel_cases sane.roled id with ⟨fault, refused⟩ | ⟨-, taken⟩
    · rwa [refused]
    · have stored : WithinLimits settings (shell.putSurface id { role := .toplevel {} }) :=
        limits.congr rfl rfl
      rw [taken, accept]
      exact (stored.ping id).createView id
  | newPopup id parent geometry =>
    rw [Shell.apply, handle]
    rcases newPopup_cases sane.roled id parent geometry with ⟨fault, refused⟩ | ⟨new, taken⟩
    · rwa [refused]
    · have stored : WithinLimits settings (shell.putSurface id { role := .popup parent geometry }) :=
        limits.congr rfl rfl
      have arrived := sane.sound.arrives (.popup parent geometry) new
      rw [taken, accept]
      rcases announce_cases arrived parent id with same | ⟨view, attached, -⟩
      · rwa [same]
      · rw [attached]
        exact stored.createPopup view id
  | _ => cases creates

theorem undergo (limits : WithinLimits settings shell) (sane : Sane count shell)
    (happening : Happening) (small : count + actCount [happening] < 2 ^ 32) :
    WithinLimits settings (shell.undergo happening) := by
  cases happening with
  | desktop => exact limits.congr rfl rfl
  | act act =>
    rw [Shell.undergo]
    rcases perform_eq_apply sane.sound act with same | ⟨step, same⟩
    · rwa [same]
    · rw [same]
      exact limits.apply sane small step

/-- **The limits hold throughout a run.** -/
theorem undergoAll (limits : WithinLimits settings shell) (sane : Sane count shell)
    (happenings : List Happening) (small : count + actCount happenings < 2 ^ 32) :
    WithinLimits settings (shell.undergoAll happenings) := by
  induction happenings generalizing count shell with
  | nil => exact limits
  | cons happening happenings ih =>
    rw [actCount_cons] at small
    have first : count + actCount [happening] < 2 ^ 32 := by omega
    exact ih (limits.undergo sane happening first) (sane.undergo happening first) (by omega)

end WithinLimits

theorem fresh_withinLimits (settings : Settings) (seats : Table SeatId SeatMode) (refusals : Nat) :
    WithinLimits settings (fresh settings seats refusals) where
  stand := rfl
  views _ := Nat.zero_le _
  popups _ _ _ found := by cases found

end Limits

end Shell

end WindowShell
