/-
**Refused surfaces stay silent.**

The view of a new window is refused if the limit is reached or the desktop declines; the record of a new
popup is refused if its view is full, or if there is no view to attach it to. The request succeeds all the
same, and the surface lives on: it is configured and mapped, popups are opened on it, and it is destroyed.
Nobody follows it, so nobody hears of any of this, and a popup that is opened on it finds no view either:

* `Managed`: what is managed, the views, the popup records, the registrations and the log;
* `Refuses`, `refuses_iff`: what is refused is what ends up without a view or popup record;
* `Silent`: nothing follows a surface, or anything that hangs on it;
* `Silent.apply_managed`: a step that concerns what is silent changes nothing that is managed;
* `Silent.undergoAll`: silence lasts as long as the surface;
* `limits_hold_and_refusals_are_silent`: **so it is in every run.**
-/

import WindowShell.Proofs.Flattening
import WindowShell.Proofs.Limits

namespace WindowShell

/-- What is managed: the views and popup records, the listeners of both, and what the desktop was told. -/
structure Managed where
  views : Table ViewId View
  popups : Table PopupId Popup
  registry : Registry
  events : List Event
deriving DecidableEq

namespace Shell

/-- What is managed. -/
def managed (shell : Shell) : Managed where
  views := shell.views
  popups := shell.popups
  registry := shell.registry
  events := shell.desktop.events

/-- The view that a popup on a surface is attached to: the view of the surface, or the one that its popup
record names. -/
def hostOf? (shell : Shell) (parent : SurfaceId) : Option ViewId :=
  (shell.viewOf? parent).or
    ((shell.popupOf? parent).bind fun popup => (shell.popups.get? popup).map Popup.view)

/-- **A popup record is refused**: there is no view to attach it to, or that view is full. -/
def DeclinesPopup (shell : Shell) (parent : SurfaceId) : Prop :=
  ∀ host ∈ shell.hostOf? parent, ∀ view ∈ shell.views.get? host, shell.PopupsFull view

instance (shell : Shell) (parent : SurfaceId) : Decidable (shell.DeclinesPopup parent) :=
  inferInstanceAs (Decidable (∀ host ∈ _, ∀ view ∈ _, _))

/-- **A step brings a surface whose view or popup record is refused.** -/
def Refuses (shell : Shell) : Step → Prop
  | .newToplevel id => shell.surfaces.get? id = none ∧ shell.DeclinesView
  | .newPopup id parent _ =>
    shell.surfaces.get? id = none ∧ (shell.surfaces.get? parent).isSome ∧ shell.DeclinesPopup parent
  | _ => False

/-- **A surface is silent**: it is there, and nothing follows it or anything that hangs on it. -/
structure Silent (shell : Shell) (root : SurfaceId) : Prop where
  present : (shell.surfaces.get? root).isSome
  unfollowed : ∀ id, shell.Below id root → shell.Unfollowed id

/-- **A step concerns a surface or what hangs on it**, or it opens a popup there. -/
def Concerns (shell : Shell) (root : SurfaceId) (step : Step) : Prop :=
  shell.Below step.surface root ∨
    ∃ id parent geometry, step = .newPopup id parent geometry ∧ shell.Below parent root

/-- A surface is there all the time while something happens. -/
def Remains (shell : Shell) (id : SurfaceId) (happenings : List Happening) : Prop :=
  ∀ front, front <+: happenings → ((shell.undergoAll front).surfaces.get? id).isSome

/-! ### What nobody follows -/

section Unheard

variable {shell before after : Shell} {count : Nat} {id : SurfaceId} {step : Step}

/-- What is managed decides who follows a surface. -/
theorem Unfollowed.of_managed (alone : before.Unfollowed id) (same : after.managed = before.managed) :
    after.Unfollowed id := by
  have views : after.views = before.views := congrArg Managed.views same
  have popups : after.popups = before.popups := congrArg Managed.popups same
  intro target wrapping found
  refine alone target wrapping ?_
  rw [← found]
  cases target with
  | view view => rw [wrapping?, wrapping?, views]
  | popup popup => rw [wrapping?, wrapping?, popups]

theorem Unfollowed.createView (alone : shell.Unfollowed id) {other : SurfaceId} (differ : id ≠ other) :
    (shell.createView other).Unfollowed id := by
  rcases createView_cases shell other with same | ⟨created, -⟩
  · exact alone.congr same
  rw [created]
  exact alone.write (wrapping?_withView shell other) differ.symm

theorem Unfollowed.createPopup (alone : shell.Unfollowed id) (view : ViewId) {other : SurfaceId}
    (differ : id ≠ other) : (shell.createPopup view other).Unfollowed id := by
  rcases createPopup_cases shell view other with same | ⟨-, created⟩
  · rwa [same]
  rw [created]
  exact alone.write (wrapping?_withPopup shell view other) differ.symm

/-- Surfaces that nothing follows go without a word. -/
theorem removeAll_unheard (sound : shell.Sound) {ids : List SurfaceId}
    (alone : ∀ id ∈ ids, shell.Unfollowed id) :
    (ids.foldl removeSurface shell).managed = shell.managed := by
  induction ids generalizing shell with
  | nil => rfl
  | cons id ids ih =>
    obtain ⟨first, rest⟩ := List.forall_mem_cons.mp alone
    obtain ⟨surfaces, removed⟩ := removeSurface_unheard sound first
    have also := (removeSurface_moves sound id).sound sound
    rw [removed] at also
    rw [List.foldl_cons, removed]
    exact ih also rest

theorem changeSurface_managed (shell : Shell) (id : SurfaceId)
    (act : SurfaceM Unit) : (shell.changeSurface id act).shell.managed = shell.managed := by
  rcases changeSurface_stores shell id act with kept | ⟨_, stored⟩
  · rw [kept]
  · rw [stored]
    rfl

theorem commit_managed (sound : shell.Sound) (alone : shell.Unfollowed id) (commit : Commit) :
    (shell.commit id commit).shell.managed = shell.managed := by
  obtain ⟨_, _, _, same⟩ := commit_unheard sound alone commit
  rw [same]
  rfl

theorem forward_unheard (sound : shell.Sound) (alone : shell.Unfollowed id) (signal : Signal) :
    (shell.forward id signal).shell = shell := by
  rcases forward_cases shell id signal with ⟨fault, refused⟩ | taken
  · rw [refused, reject]
  · rw [taken, accept]
    exact emit_unfollowed sound.held alone signal

/-- **A step that creates nothing goes unheard** where nothing follows its surface, or what hangs on it. -/
theorem apply_unheard (sane : Sane count shell) (keeps : ¬ step.Creates)
    (alone : ∀ id, shell.Below id step.surface → shell.Unfollowed id) :
    (shell.apply step).shell.managed = shell.managed := by
  have mine : shell.Unfollowed step.surface := alone _ .refl
  cases step with
  | newToplevel | newPopup => exact absurd trivial keeps
  | setMinSize | setMaxSize => exact changeSurface_managed shell _ _
  | ack id serial =>
    cases serial with
    | some serial => exact changeSurface_managed shell _ _
    | none =>
      rw [apply, ackNewest]
      split
      · rfl
      · split
        · rfl
        · exact changeSurface_managed shell _ _
  | commit => exact commit_managed sane.sound mine _
  | requestMove | requestResize | requestMaximize | requestFullscreen =>
    exact congrArg managed (forward_unheard sane.sound mine _)
  | destroy id =>
    rw [apply, handle]
    cases present : shell.surfaces.get? id with
    | none => rw [destroy_of_absent present, reject]
    | some surface =>
      rw [destroy_of_present sane.sorted present, accept]
      exact removeAll_unheard sane.sound fun other member =>
        alone other ((mem_subtree_iff sane.sorted).mp member)
  | activate | resize | moveResize | maximize | fullscreen | close | destroyView =>
    exact congrArg managed (callOf_unheard mine _)

end Unheard

/-! ### What is refused -/

section Refused

variable {shell : Shell} {count : Nat} {id parent : SurfaceId} {step : Step}

theorem newToplevel_of_new (new : shell.surfaces.get? id = none) :
    shell.newToplevel id =
      (((shell.putSurface id { role := .toplevel {} }).ping id).createView id).accept := by
  rw [newToplevel_eq, surfaceOrNew, new]
  rfl

theorem newPopup_of_new (new : shell.surfaces.get? id = none)
    (known : (shell.surfaces.get? parent).isSome) (geometry : Rectangle) :
    shell.newPopup id parent geometry =
      ((shell.putSurface id { role := .popup parent geometry }).emit parent (.newPopup id)).accept := by
  have apart : ¬ (parent = id ∨ !shell.surfaces.contains parent) := by
    rintro (rfl | absent)
    · rw [new] at known
      cases known
    · rw [Table.contains, known] at absent
      cases absent
  rw [newPopup_eq, if_neg apart, surfaceOrNew, new]
  rfl

/-- **Where a new popup is attached**: to the view of its parent, or to the one its parent is attached to. -/
theorem announce_eq (sound : shell.Sound) (parent id : SurfaceId) :
    shell.emit parent (.newPopup id) =
      match shell.hostOf? parent with
      | none => shell
      | some host => shell.createPopup host id := by
  rcases followed_or_unfollowed shell parent with ⟨target, wrapping, found, rfl⟩ | alone
  · rw [sound.emit_followed found]
    cases target with
    | view view =>
      obtain ⟨record, live, rfl⟩ := Option.map_eq_some_iff.mp found
      have host : shell.hostOf? record.wrapping.surface = some view := by
        rw [hostOf?, show record.wrapping.surface = record.surface from rfl, sound.viewOf?_eq live,
          Option.some_or]
      rw [host]
      rfl
    | popup popup =>
      obtain ⟨record, there, rfl⟩ := Option.map_eq_some_iff.mp found
      have viewless : shell.viewOf? record.surface = none :=
        viewOf?_eq_none_iff.mpr fun view owner live => sound.apart live there
      have host : shell.hostOf? record.wrapping.surface = some record.view := by
        rw [hostOf?, show record.wrapping.surface = record.surface from rfl, viewless,
          sound.popupOf?_eq there, Option.none_or, Option.bind_some, there, Option.map_some]
      rw [host, deliver, deliverToPopup, there]
  · rw [emit_unfollowed sound.held alone, hostOf?, alone.viewOf?, alone.popupOf?]
    rfl

/-- **A refusal is no fault.** The surface is there, and nothing that is managed has changed. -/
theorem apply_of_refuses (sound : shell.Sound) (refuses : shell.Refuses step) :
    (shell.apply step).fault = none ∧ (shell.apply step).shell.managed = shell.managed ∧
      shell.surfaces.get? step.surface = none ∧
        ∃ surface, (shell.apply step).shell.surfaces = shell.surfaces.insert step.surface surface := by
  cases step with
  | newToplevel id =>
    obtain ⟨new, declined⟩ := refuses
    rw [apply, handle, newToplevel_of_new new]
    have pinged : ((shell.putSurface id { role := .toplevel {} }).ping id).DeclinesView := by
      unfold ping
      split <;> exact declined
    obtain ⟨refusals, same⟩ := createView_of_declined pinged id
    rw [same]
    refine ⟨rfl, ?_, new, { role := .toplevel {} }, ping_surfaces _ _⟩
    unfold ping
    split <;> rfl
  | newPopup id parent geometry =>
    obtain ⟨new, known, declined⟩ := refuses
    have arrived := sound.arrives (.popup parent geometry) new
    have unattached : (shell.putSurface id { role := .popup parent geometry }).emit parent (.newPopup id) =
        shell.putSurface id { role := .popup parent geometry } := by
      rw [announce_eq arrived, show (shell.putSurface id _).hostOf? parent = shell.hostOf? parent from rfl]
      cases hosts : shell.hostOf? parent with
      | none => rfl
      | some host =>
        cases live : (shell.putSurface id { role := .popup parent geometry }).views.get? host with
        | none => simp only [createPopup, live]
        | some view => exact createPopup_of_full live (declined host hosts view live)
    rw [apply, handle, newPopup_of_new new known, unattached]
    exact ⟨rfl, rfl, new, _, rfl⟩
  | _ => cases refuses

/-- **What is refused is what ends up without a follower**, among all that is brought. -/
theorem refuses_iff (sane : Sane count shell) (creates : step.Creates)
    (accepted : (shell.apply step).fault = none) :
    shell.Refuses step ↔ (shell.apply step).shell.Unfollowed step.surface := by
  constructor
  · intro refuses
    obtain ⟨-, same, new, -⟩ := apply_of_refuses sane.sound refuses
    exact (sane.sound.unfollowed new).of_managed same
  intro alone
  cases step with
  | newToplevel id =>
    rw [apply, handle] at accepted alone
    rcases newToplevel_cases sane.roled id with ⟨fault, refused⟩ | ⟨new, taken⟩
    · rw [refused] at accepted
      cases accepted
    refine ⟨new, Classical.byContradiction fun granted => ?_⟩
    have pinged : ¬ ((shell.putSurface id { role := .toplevel {} }).ping id).DeclinesView := by
      unfold ping
      split <;> exact granted
    rw [taken, accept, createView_of_granted pinged] at alone
    exact alone (.view _) _ (by rw [wrapping?_withView, if_pos rfl]) rfl
  | newPopup id parent geometry =>
    rw [apply, handle] at accepted alone
    have known := Table.get?_isSome_iff.mpr (newPopup_known accepted)
    rcases newPopup_cases sane.roled id parent geometry with ⟨fault, refused⟩ | ⟨new, taken⟩
    · rw [refused] at accepted
      cases accepted
    refine ⟨new, known, fun host hosts view live => Classical.byContradiction fun room => ?_⟩
    have arrived := sane.sound.arrives (.popup parent geometry) new
    have attached : (shell.putSurface id { role := .popup parent geometry }).emit parent (.newPopup id) =
        (shell.putSurface id { role := .popup parent geometry }).withPopup host id := by
      rw [announce_eq arrived, show (shell.putSurface id _).hostOf? parent = some host from hosts]
      exact createPopup_of_room live room
    rw [taken, accept, attached] at alone
    exact alone (.popup _) _ (by rw [wrapping?_withPopup, if_pos rfl]) rfl
  | _ => cases creates

end Refused

/-! ### Silence -/

section Silence

variable {shell before after : Shell} {count : Nat} {id root : SurfaceId} {step : Step}

/-- **A refused surface is silent** from the start: nothing hangs on it yet. -/
theorem silent_of_refuses (sane : Sane count shell) (refuses : shell.Refuses step) :
    (shell.apply step).shell.Silent step.surface := by
  obtain ⟨-, same, new, surface, surfaces⟩ := apply_of_refuses sane.sound refuses
  refine ⟨by rw [surfaces, Table.get?_insert, if_pos rfl, Option.isSome_some], fun id below => ?_⟩
  have absent := not_mem_lineage new
  rw [← below_lineage, lineage_arrived new surfaces] at below
  by_cases newcomer : id = step.surface
  · rw [newcomer]
    exact (sane.sound.unfollowed new).of_managed same
  · rw [sane.sorted.below_snoc absent newcomer] at below
    rcases sane.sorted.root_mem below with same | member
    · exact absurd same newcomer
    · exact absurd member absent

namespace Silent

/-- **A step that concerns what is silent changes nothing that is managed.** -/
theorem apply_managed (silent : shell.Silent root) (sane : Sane count shell)
    (concerns : shell.Concerns root step) : (shell.apply step).shell.managed = shell.managed := by
  have known : shell.Below step.surface root → shell.surfaces.get? step.surface ≠ none := fun below =>
    Option.isSome_iff_ne_none.mp (below.present silent.present)
  by_cases creates : step.Creates
  swap
  · rcases concerns with below | ⟨_, _, _, rfl, -⟩
    · exact apply_unheard sane creates fun id lower => silent.unfollowed id (lower.trans below)
    · exact absurd trivial creates
  cases step with
  | newToplevel id =>
    rcases concerns with below | ⟨_, _, _, same, -⟩
    · rw [apply, handle]
      rcases newToplevel_cases sane.roled id with ⟨fault, refused⟩ | ⟨new, -⟩
      · rw [refused, reject]
      · exact absurd new (known below)
    · cases same
  | newPopup id parent geometry =>
    rw [apply, handle]
    rcases newPopup_cases sane.roled id parent geometry with ⟨fault, refused⟩ | ⟨new, taken⟩
    · rw [refused, reject]
    rcases concerns with below | ⟨_, _, _, same, below⟩
    · exact absurd new (known below)
    · cases same
      -- nobody hears that the popup is announced
      have arrived := sane.sound.arrives (.popup parent geometry) new
      have alone : (shell.putSurface id { role := .popup parent geometry }).Unfollowed parent :=
        silent.unfollowed parent below
      rw [taken, accept, emit_unfollowed arrived.held alone]
      rfl
  | _ => cases creates

/-- A surface arrives, and what is silent stays silent: a surface that hangs on it finds no follower. -/
theorem arrives (silent : before.Silent root) (sorted : Lineage.ParentsFirst before.lineage)
    {surface : Surface} (new : before.surfaces.get? id = none)
    (surfaces : after.surfaces = before.surfaces.insert id surface)
    (known : ∀ parent, surface.role.parent? = some parent → (before.surfaces.get? parent).isSome)
    (others : ∀ other, other ≠ id → before.Unfollowed other → after.Unfollowed other)
    (mine : ∀ parent, surface.role.parent? = some parent → before.Below parent root →
      after.Unfollowed id) : after.Silent root := by
  have absent := not_mem_lineage new
  have apart : root ≠ id := by
    rintro rfl
    exact Option.isSome_iff_ne_none.mp silent.present new
  refine ⟨by rw [surfaces, Table.get?_insert, if_neg apart]; exact silent.present, fun other below => ?_⟩
  rw [← below_lineage, lineage_arrived new surfaces] at below
  by_cases newcomer : other = id
  · rw [newcomer] at below ⊢
    rcases (sorted.below_newcomer absent fun parent hangs =>
      mem_lineage_iff.mpr (known parent hangs)).mp below with same | ⟨parent, hangs, further⟩
    · exact absurd same.symm apart
    · exact mine parent hangs (below_lineage.mp further)
  · rw [sorted.below_snoc absent newcomer] at below
    exact others other newcomer (silent.unfollowed other (below_lineage.mp below))

/-- **Silence outlasts a step** that the surface outlasts. -/
theorem apply (silent : shell.Silent root) (sane : Sane count shell) (small : count + 1 < 2 ^ 32)
    (stays : ((shell.apply step).shell.surfaces.get? root).isSome) :
    (shell.apply step).shell.Silent root := by
  by_cases creates : step.Creates
  swap
  · obtain ⟨thins, -⟩ := apply_thins (sane.whole small) sane.sorted creates
    exact ⟨stays, fun id below => thins.unfollowed (silent.unfollowed id (thins.below below))⟩
  cases step with
  | newToplevel id =>
    rw [Shell.apply, handle]
    rcases newToplevel_cases sane.roled id with ⟨fault, refused⟩ | ⟨new, taken⟩
    · rwa [refused]
    rw [taken, accept]
    have side : (((shell.putSurface id { role := .toplevel {} }).ping id).createView id).surfaces =
        shell.surfaces.insert id { role := .toplevel {} } :=
      (surfaces_of_clientSide (createView_clientSide _ _)).trans (ping_surfaces _ _)
    refine silent.arrives sane.sorted new side (fun other hangs => ?_) (fun other differ alone => ?_)
      (fun other hangs => ?_)
    · cases hangs
    · have stored : (shell.putSurface id { role := .toplevel {} }).Unfollowed other := alone
      exact (stored.congr (ping_frame _ _)).createView differ
    · cases hangs
  | newPopup id parent geometry =>
    rw [Shell.apply, handle]
    rcases newPopup_cases sane.roled id parent geometry with ⟨fault, refused⟩ | ⟨new, taken⟩
    · rwa [refused]
    have known := newPopup_known (congrArg Reply.fault taken)
    have arrived := sane.sound.arrives (.popup parent geometry) new
    have side : ((shell.putSurface id { role := .popup parent geometry }).emit parent
        (.newPopup id)).surfaces = shell.surfaces.insert id { role := .popup parent geometry } :=
      emit_surfaces _ _ _
    rw [taken, accept]
    refine silent.arrives sane.sorted new side (fun other hangs => ?_) (fun other differ alone => ?_)
      (fun other hangs below => ?_)
    · obtain rfl := Option.some.inj hangs
      exact Table.get?_isSome_iff.mpr known
    · have stored : (shell.putSurface id { role := .popup parent geometry }).Unfollowed other := alone
      rcases announce_cases arrived parent id with same | ⟨view, attached, -⟩
      · rwa [same]
      · rw [attached]
        exact stored.createPopup view differ
    · obtain rfl := Option.some.inj hangs
      have unheard : (shell.putSurface id { role := .popup parent geometry }).Unfollowed parent :=
        silent.unfollowed parent below
      rw [emit_unfollowed arrived.held unheard]
      exact sane.sound.unfollowed new
  | _ => cases creates

theorem undergo (silent : shell.Silent root) (sane : Sane count shell) (happening : Happening)
    (small : count + actCount [happening] < 2 ^ 32)
    (stays : ((shell.undergo happening).surfaces.get? root).isSome) :
    (shell.undergo happening).Silent root := by
  cases happening with
  | desktop => exact ⟨silent.present, silent.unfollowed⟩
  | act act =>
    rw [Shell.undergo] at stays ⊢
    rcases perform_eq_apply sane.sound act with same | ⟨step, same⟩
    · rwa [same]
    · rw [same] at stays ⊢
      exact silent.apply sane small stays

/-- **Silence lasts as long as the surface.** -/
theorem undergoAll (silent : shell.Silent root) (sane : Sane count shell) (happenings : List Happening)
    (small : count + actCount happenings < 2 ^ 32) (remains : shell.Remains root happenings) :
    (shell.undergoAll happenings).Silent root := by
  induction happenings generalizing count shell with
  | nil => exact silent
  | cons happening happenings ih =>
    rw [actCount_cons] at small
    have first : count + actCount [happening] < 2 ^ 32 := by omega
    have stays := remains [happening] (List.prefix_append [happening] happenings)
    exact ih (silent.undergo sane happening first stays) (sane.undergo happening first) (by omega)
      fun front earlier => remains (happening :: front) (List.cons_prefix_cons.mpr ⟨rfl, earlier⟩)

end Silent

end Silence

/-! ### Runs -/

section Runs

variable {settings : Settings} {seats : Table SeatId SeatMode} {refusals : Nat}
  {happenings : List Happening} {shell : Shell}

/-- **The limits hold, and refused surfaces stay silent.** In fewer acts than there are identifiers, and
whatever the desktop does in between, there are never more views, or popups on a view, than the settings
allow. A surface that is brought is without a view or popup record exactly if the limit is reached, the
desktop declines, or there is nothing to attach it to. The request succeeds then and changes nothing that is
managed; and for as long as the surface exists, neither does any step that concerns it or what hangs on it. -/
theorem limits_hold_and_refusals_are_silent
    (run : shell = (fresh settings seats refusals).undergoAll happenings)
    (short : actCount happenings < 2 ^ 32 - 1) :
    WithinLimits settings shell ∧
      (∀ step : Step, step.Creates → (shell.apply step).fault = none →
        (shell.Refuses step ↔ (shell.apply step).shell.Unfollowed step.surface)) ∧
      ∀ step, shell.Refuses step →
        (shell.apply step).fault = none ∧ (shell.apply step).shell.managed = shell.managed ∧
          ∀ later next, actCount happenings + 1 + actCount later < 2 ^ 32 - 1 →
            (shell.apply step).shell.Remains step.surface later →
            ((shell.apply step).shell.undergoAll later).Concerns step.surface next →
            (((shell.apply step).shell.undergoAll later).apply next).shell.managed =
              ((shell.apply step).shell.undergoAll later).managed := by
  have start := Sane.fresh settings seats refusals
  have sane : Sane (actCount happenings) shell := by
    have after := start.undergoAll happenings (by omega)
    rwa [Nat.zero_add, ← run] at after
  refine ⟨?_, fun step creates accepted => refuses_iff sane creates accepted, fun step refuses => ?_⟩
  · rw [run]
    exact (fresh_withinLimits settings seats refusals).undergoAll start happenings (by omega)
  obtain ⟨accepted, same, -⟩ := apply_of_refuses sane.sound refuses
  refine ⟨accepted, same, fun later next few remains concerns => ?_⟩
  have began := sane.apply (by omega) step
  have silent := (silent_of_refuses sane refuses).undergoAll began later (by omega) remains
  exact silent.apply_managed (began.undergoAll later (by omega)) concerns

/-- A view that may have one popup, and has it. -/
def fullWindow : List Happening :=
  [.act (.request (.newToplevel ⟨1⟩)), .act (.request (.newPopup ⟨2⟩ ⟨1⟩ {}))]

/-- Another popup is refused. When the first one goes there is room again, but a popup on the one that was
refused is refused as well. -/
theorem limits_hold_and_refusals_are_silent_fullWindow :
    ∃ shell refused later,
      shell = (fresh { maxViews := 1, maxPopupsPerView := 1 } .empty 0).undergoAll fullWindow ∧
        shell.Refuses (.newToplevel ⟨3⟩) ∧ shell.Refuses (.newPopup ⟨3⟩ ⟨1⟩ {}) ∧
        shell.views.size ≤ 1 ∧
        refused = (shell.apply (.newPopup ⟨3⟩ ⟨1⟩ {})).shell ∧ refused.managed = shell.managed ∧
        later = refused.undergoAll [.act (.request (.destroy ⟨2⟩))] ∧
        later.popups.size = 0 ∧ ¬ later.DeclinesPopup ⟨1⟩ ∧
        (later.apply (.newPopup ⟨4⟩ ⟨3⟩ {})).shell.managed = later.managed := by
  generalize made :
    (fresh { maxViews := 1, maxPopupsPerView := 1 } .empty 0).undergoAll fullWindow = shell
  obtain ⟨limits, -, silent⟩ := limits_hold_and_refusals_are_silent made.symm (by decide)
  have full : shell.Refuses (.newPopup ⟨3⟩ ⟨1⟩ {}) := by
    rw [← made]
    exact ⟨by decide, by decide, by decide⟩
  obtain ⟨-, same, onward⟩ := silent _ full
  refine ⟨shell, _, _, rfl, ?_, full, limits.views (by decide), rfl, same, rfl, ?_, ?_,
    onward [.act (.request (.destroy ⟨2⟩))] _ (by decide) ?_ (.inr ⟨_, _, _, rfl, .refl⟩)⟩
  · rw [← made]
    exact ⟨by decide, by decide⟩
  · rw [← made]
    decide
  · rw [← made]
    decide
  · intro front earlier
    rw [← made]
    rcases List.prefix_cons_iff.mp earlier with rfl | ⟨rest, rfl, nothing⟩
    · decide
    · obtain rfl := List.prefix_nil.mp nothing
      decide

end Runs

end Shell

end WindowShell
