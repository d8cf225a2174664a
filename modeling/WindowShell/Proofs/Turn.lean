/-
**What an act means for one surface.**

Every act is a turn of every surface, and there are only a few turns. A surface appears with a role of
its own, and vanishes with the window or popup it hangs on. In between its client declares bounds,
acknowledges and commits, and window management asks for a state. A configure is sent in two of these
turns only, and no surface notices a turn of another one:

* `perform_turn`: what any act does to any surface, and which configures it sends there;
* `perform_roled`: surfaces have a role from the start.
-/

import WindowShell.Proofs.ClientSide
import WindowShell.Proofs.Handling

namespace WindowShell

namespace Role

@[simp] theorem mapToplevel_eq_unset_iff (change : Toplevel → Toplevel) (role : Role) :
    role.mapToplevel change = .unset ↔ role = .unset := by
  cases role <;> simp [mapToplevel]

@[simp] theorem adopt_eq_unset_iff (role : Role) (payload : Payload) :
    role.adopt payload = .unset ↔ role = .unset := by
  cases payload <;> simp [adopt]

end Role

namespace Surface

theorem isToplevel_iff {surface : Surface} :
    surface.isToplevel ↔ ∃ toplevel, surface.role = .toplevel toplevel := by
  unfold isToplevel Role.toplevel?
  cases surface.role <;> simp

theorem changeToplevel_ok {surface after : Surface} {change : Toplevel → Toplevel}
    (done : surface.changeToplevel change = .ok after) :
    after = { surface with role := surface.role.mapToplevel change } := by
  rw [changeToplevel_eq] at done
  split at done
  · exact (Except.ok.inj done).symm
  · cases done

theorem ack_ok {surface after : Surface} {raw : UInt32} (done : surface.ack raw = .ok after) :
    ∃ acked rest,
      (surface.inflight.dropWhile fun configure => configure.serial.val ≠ raw) = acked :: rest ∧
        after = { surface with inflight := rest, acked := some acked } := by
  rw [ack_eq] at done
  split at done
  · next acked rest found => exact ⟨acked, rest, found, (Except.ok.inj done).symm⟩
  · cases done

/-- An acknowledgement splits what is in flight at the configure it names. -/
theorem ack_split {surface after : Surface} {raw : UInt32} (done : surface.ack raw = .ok after) :
    ∃ passed acked rest, surface.inflight = passed ++ acked :: rest ∧ acked.serial.val = raw ∧
      after = { surface with inflight := rest, acked := some acked } := by
  obtain ⟨acked, rest, found, rfl⟩ := ack_ok done
  refine ⟨surface.inflight.takeWhile fun configure => configure.serial.val ≠ raw, acked, rest, ?_, ?_,
    rfl⟩
  · rw [← found, List.takeWhile_append_dropWhile]
  · have stops := List.head?_dropWhile_not (fun configure : Configure => configure.serial.val ≠ raw)
      surface.inflight
    rw [found] at stops
    simpa using stops

/-- A commit that succeeds latches, and then settles visibility. -/
theorem commit_ok {surface after : Surface} {commit : Commit} {effect : CommitEffect}
    (done : surface.commit commit = .ok (after, effect)) :
    surface.role ≠ .unset ∧ surface.attachesTooEarly commit = false ∧
      (surface.latchAck.latchContent commit).settle = (after, effect) := by
  rw [commit_eq] at done
  split at done
  · cases done
  · next roled =>
    split at done
    · cases done
    · next early => exact ⟨roled, by simpa using early, Except.ok.inj done⟩

@[simp] theorem latchContent_inflight (surface : Surface) (commit : Commit) :
    (surface.latchContent commit).inflight = surface.inflight := rfl

@[simp] theorem latchContent_acked (surface : Surface) (commit : Commit) :
    (surface.latchContent commit).acked = surface.acked := rfl

@[simp] theorem latchContent_configured (surface : Surface) (commit : Commit) :
    (surface.latchContent commit).configured = surface.configured := rfl

@[simp] theorem latchAck_inflight (surface : Surface) :
    surface.latchAck.inflight = surface.inflight := by
  unfold latchAck
  split <;> rfl

@[simp] theorem latchAck_acked (surface : Surface) : surface.latchAck.acked = none := by
  unfold latchAck
  split
  · assumption
  · rfl

theorem latchAck_buffer (surface : Surface) : surface.latchAck.buffer = surface.buffer := by
  unfold latchAck
  split <;> rfl

@[simp] theorem latchAck_role_eq_unset_iff (surface : Surface) :
    surface.latchAck.role = .unset ↔ surface.role = .unset := by
  unfold latchAck
  split
  · rfl
  · simp

@[simp] theorem settle_role (surface : Surface) : surface.settle.1.role = surface.role := by
  unfold settle
  split
  · rfl
  · split
    · rfl
    · split <;> rfl

/-- What a commit makes of the role is settled before visibility is. -/
theorem commit_role {surface after : Surface} {commit : Commit} {effect : CommitEffect}
    (done : surface.commit commit = .ok (after, effect)) :
    after.role = (surface.latchAck.latchContent commit).role := by
  obtain ⟨-, -, settled⟩ := commit_ok done
  rw [← settle_role (surface.latchAck.latchContent commit), settled]

theorem commit_roled {surface after : Surface} {commit : Commit} {effect : CommitEffect}
    (done : surface.commit commit = .ok (after, effect)) : after.role ≠ .unset := by
  obtain ⟨roled, -, -⟩ := commit_ok done
  rw [commit_role done]
  simpa [latchContent] using roled

/-- A configure that is sent is the last one in flight, and takes the next serial. -/
theorem schedule_some {surface after : Surface} {serials next : SerialCounter} {force : Bool}
    {configure : Configure}
    (sent : surface.schedule serials force = some (configure, after, next)) :
    surface.duePayload? force = some configure.payload ∧ configure.serial = serials.next ∧
      after = { surface with inflight := surface.inflight ++ [configure] } ∧
      next = serials.allocate.2 := by
  unfold schedule at sent
  obtain ⟨payload, due, same⟩ := Option.map_eq_some_iff.mp sent
  simp only [Prod.mk.injEq] at same
  obtain ⟨rfl, rfl, rfl⟩ := same
  exact ⟨due, rfl, rfl, rfl⟩

theorem schedule_eq_none_iff {surface : Surface} {serials : SerialCounter} {force : Bool} :
    surface.schedule serials force = none ↔ surface.duePayload? force = none := by
  simp [schedule]

/-- A surface with a role can always be told what it should be. -/
theorem duePayload?_force {surface : Surface} (roled : surface.role ≠ .unset) :
    surface.duePayload? true ≠ none := by
  unfold duePayload?
  split
  · next unset => exact absurd unset roled
  · simp
  · simp

end Surface

namespace Shell

/-- The configures sent to a surface, oldest first. -/
def sentTo (shell : Shell) (id : SurfaceId) : List Configure :=
  shell.outbox.filterMap (Message.configureFor? id)

/-- What an act asks of the window on a surface. -/
def asked? (shell : Shell) (id : SurfaceId) : Act → Option (ToplevelState → ToplevelState)
  | .request _ => none
  | .call view call =>
    match shell.window? view with
    | none => none
    | some (record, _, toplevel) =>
      if record.surface = id then call.change? toplevel.bounds else none

theorem window?_eq_some {shell : Shell} {id : ViewId} {view : View} {surface : Surface}
    {toplevel : Toplevel} :
    shell.window? id = some (view, surface, toplevel) ↔
      shell.views.get? id = some view ∧ shell.surfaces.get? view.surface = some surface ∧
        surface.role = .toplevel toplevel := by
  have role : ∀ found : Surface,
      found.role.toplevel? = some toplevel ↔ found.role = .toplevel toplevel := fun found => by
    cases found.role <;> simp [Role.toplevel?]
  unfold window?
  cases views : shell.views.get? id with
  | none => simp
  | some record =>
    cases surfaces : shell.surfaces.get? record.surface with
    | none =>
      simp only [Option.bind_eq_bind, Option.bind_some, surfaces, Option.bind_none, reduceCtorEq,
        Option.some.injEq, false_iff, not_and]
      rintro rfl found
      rw [surfaces] at found
      cases found
    | some found =>
      simp only [Option.bind_eq_bind, Option.bind_some, surfaces, Option.bind_eq_some_iff,
        Option.pure_def, Option.some.injEq, Prod.mk.injEq]
      constructor
      · rintro ⟨state, same, rfl, rfl, rfl⟩
        exact ⟨rfl, surfaces, (role _).mp same⟩
      · rintro ⟨rfl, same, kind⟩
        obtain rfl : found = surface := Option.some.inj (surfaces.symm.trans same)
        exact ⟨toplevel, (role _).mpr kind, rfl, rfl, rfl⟩

/-! ### The turns -/

/-- **The turns of a surface**: what an act makes of it, and the configures it sends there. -/
inductive Turn (shell : Shell) (id : SurfaceId) :
    Act → Option Surface → Option Surface → List Configure → Prop
  | rest {act : Act} (surface : Option Surface) (unasked : shell.asked? id act = none) :
      Turn shell id act surface surface []
  | window : Turn shell id (.request (.newToplevel id)) none (some { role := .toplevel {} }) []
  | popup (parent : SurfaceId) (geometry : Rectangle) :
      Turn shell id (.request (.newPopup id parent geometry)) none
        (some { role := .popup parent geometry }) []
  | vanish (root : SurfaceId) (surface : Surface) :
      Turn shell id (.request (.destroy root)) (some surface) none []
  | declareMin {surface after : Surface} (size : Extent)
      (done : surface.setMinSize size = .ok after) :
      Turn shell id (.request (.setMinSize id size)) (some surface) (some after) []
  | declareMax {surface after : Surface} (size : Extent)
      (done : surface.setMaxSize size = .ok after) :
      Turn shell id (.request (.setMaxSize id size)) (some surface) (some after) []
  | ack {surface after : Surface} (raw : UInt32) (done : surface.ack raw = .ok after) :
      Turn shell id (.request (.ack id raw)) (some surface) (some after) []
  | commit {surface after : Surface} {effect : CommitEffect} (commit : Commit)
      (done : surface.commit commit = .ok (after, effect)) (settled : effect ≠ .needsConfigure) :
      Turn shell id (.request (.commit id commit)) (some surface) (some after) []
  | invite {surface latched after : Surface} {configure : Configure} {serials : SerialCounter}
      (commit : Commit) (done : surface.commit commit = .ok (latched, .needsConfigure))
      (due : latched.schedule shell.serials true = some (configure, after, serials))
      (counted : (shell.perform (.request (.commit id commit))).shell.serials = serials) :
      Turn shell id (.request (.commit id commit)) (some surface) (some after) [configure]
  | agree {act : Act} {surface : Surface} {change : ToplevelState → ToplevelState}
      (asked : shell.asked? id act = some change)
      (due : (surface.setPending change).schedule shell.serials false = none) :
      Turn shell id act (some surface) (some (surface.setPending change)) []
  | propose {act : Act} {surface after : Surface} {change : ToplevelState → ToplevelState}
      {configure : Configure} {serials : SerialCounter} (asked : shell.asked? id act = some change)
      (due : (surface.setPending change).schedule shell.serials false =
        some (configure, after, serials))
      (counted : (shell.perform act).shell.serials = serials) :
      Turn shell id act (some surface) (some after) [configure]

/-! ### Messages that carry no configure -/

section Silent

variable (shell : Shell) (id : SurfaceId)

theorem sentTo_of_outbox {before after : Shell} {messages : List Message}
    (same : after.outbox = before.outbox ++ messages) :
    after.sentTo id = before.sentTo id ++ messages.filterMap (Message.configureFor? id) := by
  rw [sentTo, same, List.filterMap_append, sentTo]

theorem ping_surfaces (window : SurfaceId) : (shell.ping window).surfaces = shell.surfaces := by
  unfold ping
  split <;> rfl

theorem ping_views (window : SurfaceId) : (shell.ping window).views = shell.views := by
  unfold ping
  split <;> rfl

theorem ping_desktop (window : SurfaceId) : (shell.ping window).desktop = shell.desktop := by
  unfold ping
  split <;> rfl

theorem ping_sentTo (window : SurfaceId) : (shell.ping window).sentTo id = shell.sentTo id := by
  unfold ping
  split
  · exact (sentTo_of_outbox id rfl).trans (List.append_nil _)
  · rfl

theorem closeMessage?_surface {surface : Surface} {window : SurfaceId} {message : Message}
    (closes : surface.closeMessage? window = some message) : message.surface = window := by
  unfold Surface.closeMessage? at closes
  split at closes <;> cases closes <;> rfl

theorem closeMessage?_silent {surface : Surface} {window : SurfaceId} {message : Message}
    (closes : surface.closeMessage? window = some message) : message.configureFor? id = none := by
  unfold Surface.closeMessage? at closes
  split at closes <;> cases closes <;> rfl

/-- Closing a window only asks surfaces to go away. -/
theorem mem_closing {view : View} {surface : Surface} {message : Message}
    (member : message ∈ shell.dismissals view ++ (surface.closeMessage? view.surface).toList) :
    ∃ closed window, Surface.closeMessage? closed window = some message := by
  rcases List.mem_append.mp member with dismissed | closed
  · obtain ⟨popup, -, found⟩ := List.mem_filterMap.mp dismissed
    simp only [Option.bind_eq_bind, Option.bind_eq_some_iff] at found
    obtain ⟨_, -, closed, -, closes⟩ := found
    exact ⟨closed, _, closes⟩
  · exact ⟨surface, _, Option.mem_toList.mp closed⟩

theorem closeWindow_sentTo (view : View) (surface : Surface) :
    (shell.closeWindow view surface).sentTo id = shell.sentTo id := by
  rw [closeWindow, sentTo_of_outbox id rfl]
  refine (congrArg (shell.sentTo id ++ ·) ?_).trans (List.append_nil _)
  refine List.filterMap_eq_nil_iff.mpr fun message member => ?_
  obtain ⟨closed, window, closes⟩ := shell.mem_closing member
  exact closeMessage?_silent id closes

end Silent

/-! ### Every act is a turn of every surface -/

/-- An act is a turn of a surface: it adds the configures of the turn to those sent there. -/
def TakesTurn (shell : Shell) (id : SurfaceId) (act : Act) : Prop :=
  ∃ sent, (shell.perform act).shell.sentTo id = shell.sentTo id ++ sent ∧
    Turn shell id act (shell.surfaces.get? id) ((shell.perform act).shell.surfaces.get? id) sent

theorem sentTo_of_clientSide {id : SurfaceId} {before after : Shell}
    (same : after.clientSide = before.clientSide) : after.sentTo id = before.sentTo id :=
  congrArg (List.filterMap _) (outbox_of_clientSide same)

section Turns

variable {shell : Shell} {id : SurfaceId}

namespace TakesTurn

/-- A surface that an act leaves alone rests. -/
theorem rest {act : Act} (unasked : shell.asked? id act = none)
    (same : (shell.perform act).shell.surfaces.get? id = shell.surfaces.get? id)
    (silent : (shell.perform act).shell.sentTo id = shell.sentTo id) : shell.TakesTurn id act :=
  ⟨[], by rw [silent, List.append_nil], by rw [same]; exact .rest _ unasked⟩

/-- A rejected request leaves every surface alone. -/
theorem rejected {request : Request} (same : (shell.handle request).shell = shell) :
    shell.TakesTurn id (.request request) :=
  .rest rfl (by rw [perform, same]) (by rw [perform, same])

/-- Another surface is stored. -/
theorem other {act : Act} {stored : SurfaceId} {surface : Surface} (differ : id ≠ stored)
    (unasked : shell.asked? id act = none)
    (surfaces : (shell.perform act).shell.surfaces = shell.surfaces.insert stored surface)
    (silent : (shell.perform act).shell.sentTo id = shell.sentTo id) : shell.TakesTurn id act :=
  .rest unasked (by rw [surfaces, Table.get?_insert, if_neg differ]) silent

/-- A turn in which a surface is stored and nothing is sent to it. -/
theorem stored {act : Act} {surface : Surface}
    (surfaces : (shell.perform act).shell.surfaces = shell.surfaces.insert id surface)
    (silent : (shell.perform act).shell.sentTo id = shell.sentTo id)
    (turn : Turn shell id act (shell.surfaces.get? id) (some surface) []) :
    shell.TakesTurn id act :=
  ⟨[], by rw [silent, List.append_nil], by rwa [surfaces, Table.get?_insert, if_pos rfl]⟩

/-- A turn in which a surface is stored and a configure is sent to it. -/
theorem told {act : Act} {surface : Surface} {configure : Configure}
    (surfaces : (shell.perform act).shell.surfaces = shell.surfaces.insert id surface)
    (sent : (shell.perform act).shell.outbox = shell.outbox ++ [.configure id configure])
    (turn : Turn shell id act (shell.surfaces.get? id) (some surface) [configure]) :
    shell.TakesTurn id act :=
  ⟨[configure], by rw [sentTo_of_outbox id sent]; simp [Message.configureFor?],
    by rwa [surfaces, Table.get?_insert, if_pos rfl]⟩

/-- A configure is sent to another surface, which is stored. -/
theorem otherTold {act : Act} {stored : SurfaceId} {surface : Surface} {configure : Configure}
    (differ : id ≠ stored) (unasked : shell.asked? id act = none)
    (surfaces : (shell.perform act).shell.surfaces = shell.surfaces.insert stored surface)
    (sent : (shell.perform act).shell.outbox = shell.outbox ++ [.configure stored configure]) :
    shell.TakesTurn id act :=
  .other differ unasked surfaces (by
    rw [sentTo_of_outbox id sent]
    simp [Message.configureFor?, Ne.symm differ])

end TakesTurn

theorem newToplevel_turn (roled : shell.Roled) (surface : SurfaceId) :
    shell.TakesTurn id (.request (.newToplevel surface)) := by
  rcases newToplevel_cases roled surface with ⟨fault, refused⟩ | ⟨new, taken⟩
  · exact .rejected (congrArg Reply.shell refused)
  have side : (shell.newToplevel surface).shell.clientSide =
      ((shell.putSurface surface { role := .toplevel {} }).ping surface).clientSide := by
    rw [taken, accept, createView_clientSide]
  have surfaces : (shell.newToplevel surface).shell.surfaces =
      shell.surfaces.insert surface { role := .toplevel {} } :=
    (surfaces_of_clientSide side).trans (ping_surfaces _ _)
  have silent : (shell.newToplevel surface).shell.sentTo id = shell.sentTo id :=
    (sentTo_of_clientSide side).trans (ping_sentTo _ _ _)
  by_cases same : id = surface
  · subst same
    exact .stored surfaces silent (by rw [new]; exact .window)
  · exact .other same rfl surfaces silent

theorem newPopup_turn (roled : shell.Roled) (surface parent : SurfaceId) (geometry : Rectangle) :
    shell.TakesTurn id (.request (.newPopup surface parent geometry)) := by
  rcases newPopup_cases roled surface parent geometry with ⟨fault, refused⟩ | ⟨new, taken⟩
  · exact .rejected (congrArg Reply.shell refused)
  have side : (shell.newPopup surface parent geometry).shell.clientSide =
      (shell.putSurface surface { role := .popup parent geometry }).clientSide := by
    rw [taken, accept, emit_clientSide]
  have silent : (shell.newPopup surface parent geometry).shell.sentTo id = shell.sentTo id :=
    (sentTo_of_clientSide side).trans rfl
  by_cases same : id = surface
  · subst same
    exact .stored (surfaces_of_clientSide side) silent (by rw [new]; exact .popup parent geometry)
  · exact .other same rfl (surfaces_of_clientSide side) silent

/-- A request that changes one surface is a turn of that surface and of no other. -/
theorem changeSurface_turn {request : Request} {surface : SurfaceId}
    {act : SurfaceM Unit} (careful : act.Careful)
    (handled : shell.handle request = shell.changeSurface surface act)
    (turn : ∀ before after, before.obey act = .ok after →
      Turn shell surface (.request request) (some before) (some after) []) :
    shell.TakesTurn id (.request request) := by
  rcases changeSurface_cases shell surface careful with
    ⟨fault, refused⟩ | ⟨before, after, found, changed, taken⟩
  · exact .rejected (congrArg Reply.shell (handled.trans refused))
  have result : (shell.handle request).shell = shell.putSurface surface after :=
    congrArg Reply.shell (handled.trans taken)
  have surfaces : (shell.handle request).shell.surfaces = shell.surfaces.insert surface after :=
    congrArg Shell.surfaces result
  have silent : (shell.handle request).shell.sentTo id = shell.sentTo id := by
    rw [result]
    rfl
  by_cases same : id = surface
  · subst same
    exact .stored surfaces silent (by rw [found]; exact turn before after changed)
  · exact .other same rfl surfaces silent

theorem forward_turn {request : Request} {surface : SurfaceId} {signal : Signal}
    (handled : shell.handle request = shell.forward surface signal) :
    shell.TakesTurn id (.request request) := by
  rcases forward_cases shell surface signal with ⟨fault, refused⟩ | taken
  · exact .rejected (congrArg Reply.shell (handled.trans refused))
  have side : (shell.handle request).shell.clientSide = shell.clientSide := by
    rw [handled, taken, accept, emit_clientSide]
  exact .rest rfl (by rw [perform, surfaces_of_clientSide side]) (sentTo_of_clientSide side)

theorem commit_turn (surface : SurfaceId) (commit : Commit) :
    shell.TakesTurn id (.request (.commit surface commit)) := by
  rcases commit_cases shell surface commit with
    ⟨fault, refused⟩ | ⟨before, latched, effect, found, done, taken⟩
  · exact .rejected (congrArg Reply.shell refused)
  have side : (shell.commit surface commit).shell.clientSide =
      (if effect = .needsConfigure then (shell.configure surface latched true).1
        else shell.putSurface surface latched).clientSide := by
    rw [taken, accept, emit_clientSide]
    cases effect <;> simp [followed]
  by_cases first : effect = .needsConfigure
  · subst first
    rw [if_pos rfl] at side
    rcases configure_cases shell surface latched true with
      ⟨due, -⟩ | ⟨configure, after, serials, due, stored⟩
    · exact absurd (Surface.schedule_eq_none_iff.mp due)
        (Surface.duePayload?_force (Surface.commit_roled done))
    rw [stored] at side
    by_cases same : id = surface
    · subst same
      refine .told (surfaces_of_clientSide side) (outbox_of_clientSide side) ?_
      rw [found]
      exact .invite commit done due (serials_of_clientSide side)
    · exact .otherTold same rfl (surfaces_of_clientSide side) (outbox_of_clientSide side)
  · rw [if_neg first] at side
    have silent : (shell.commit surface commit).shell.sentTo id = shell.sentTo id :=
      (sentTo_of_clientSide side).trans rfl
    by_cases same : id = surface
    · subst same
      refine .stored (surfaces_of_clientSide side) silent ?_
      rw [found]
      exact .commit commit done first
    · exact .other same rfl (surfaces_of_clientSide side) silent

theorem destroy_turn (root : SurfaceId) : shell.TakesTurn id (.request (.destroy root)) := by
  obtain ⟨ids, result⟩ := destroy_removes shell root
  have silent : (shell.destroy root).shell.sentTo id = shell.sentTo id := by
    rw [result, sentTo, removeAll_outbox, sentTo]
  have gone := removeAll_get? shell ids id
  rw [← result] at gone
  by_cases member : id ∈ ids
  · rw [if_pos member] at gone
    refine ⟨[], by rw [perform, handle, silent, List.append_nil], ?_⟩
    rw [perform, handle, gone]
    cases shell.surfaces.get? id with
    | none => exact .rest _ rfl
    | some surface => exact .vanish root surface
  · exact .rest rfl (by rw [perform, handle, gone, if_neg member]) silent

/-- Whatever else it does to the view, moving and resizing proposes the size. -/
theorem moveResize_clientSide (shell : Shell) (id : ViewId) (view : View) (surface : Surface)
    (bounds : SizeBounds) (position : Point) (size : Extent) :
    (shell.moveResize id view surface bounds position size).clientSide =
      (shell.propose view surface fun state =>
        { state with size := bounds.constrain size }).1.clientSide := by
  simp only [moveResize]
  split <;> simp

/-- A call that proposes a state is a turn of the surface of its view and of no other. -/
theorem proposed_turn {view : ViewId} {call : WindowCall} {record : View} {surface : Surface}
    {toplevel : Toplevel} {change : ToplevelState → ToplevelState}
    (window : shell.window? view = some (record, surface, toplevel))
    (asked : call.change? toplevel.bounds = some change)
    (side : (shell.call view call).clientSide = (shell.propose record surface change).1.clientSide) :
    shell.TakesTurn id (.call view call) := by
  have present := (window?_eq_some.mp window).2.1
  have wish : shell.asked? id (.call view call) =
      if record.surface = id then some change else none := by
    simp only [asked?, window, asked]
  rw [propose] at side
  rcases configure_cases shell record.surface (surface.setPending change) false with
    ⟨due, stored⟩ | ⟨configure, after, serials, due, stored⟩ <;> rw [stored] at side
  · have silent : (shell.call view call).sentTo id = shell.sentTo id :=
      (sentTo_of_clientSide side).trans rfl
    by_cases same : id = record.surface
    · subst same
      rw [if_pos rfl] at wish
      refine .stored (surfaces_of_clientSide side) silent ?_
      rw [present]
      exact .agree wish due
    · rw [if_neg (Ne.symm same)] at wish
      exact .other same wish (surfaces_of_clientSide side) silent
  · by_cases same : id = record.surface
    · subst same
      rw [if_pos rfl] at wish
      refine .told (surfaces_of_clientSide side) (outbox_of_clientSide side) ?_
      rw [present]
      exact .propose wish due (serials_of_clientSide side)
    · rw [if_neg (Ne.symm same)] at wish
      exact .otherTold same wish (surfaces_of_clientSide side) (outbox_of_clientSide side)

theorem call_turn (view : ViewId) (call : WindowCall) : shell.TakesTurn id (.call view call) := by
  have carried := call_carried shell view call
  generalize result : shell.call view call = after at carried
  cases carried with
  | forget =>
    have side := forgetView_clientSide shell view
    refine .rest ?_ ?_ ?_
    · simp only [asked?]
      split
      · rfl
      · simp [WindowCall.change?]
    · rw [perform, result, accept, surfaces_of_clientSide side]
    · rw [perform, result, accept, sentTo_of_clientSide side]
  | miss absent =>
    exact .rest (by simp only [asked?, absent]) (by rw [perform, result, accept])
      (by rw [perform, result, accept])
  | close window =>
    refine .rest ?_ (by rw [perform, result]; rfl) ?_
    · simp only [asked?, window, WindowCall.change?, ite_self]
    · rw [perform, result, accept, closeWindow_sentTo]
  | propose window asked => exact proposed_turn window asked (by rw [result])
  | moveResize position size window =>
    exact proposed_turn window rfl (by rw [result, moveResize_clientSide])

/-- **Every act is a turn of every surface.** -/
theorem perform_turn (roled : shell.Roled) (act : Act) (id : SurfaceId) :
    shell.TakesTurn id act := by
  cases act with
  | call view call => exact call_turn view call
  | request request =>
    cases request with
    | newToplevel surface => exact newToplevel_turn roled surface
    | newPopup surface parent geometry => exact newPopup_turn roled surface parent geometry
    | setMinSize surface size => exact changeSurface_turn (by simp) rfl fun _ _ done => .declareMin size done
    | setMaxSize surface size => exact changeSurface_turn (by simp) rfl fun _ _ done => .declareMax size done
    | ack surface serial => exact changeSurface_turn (by simp) rfl fun _ _ done => .ack serial done
    | commit surface commit => exact commit_turn surface commit
    | destroy surface => exact destroy_turn surface
    | move | resize | maximize | fullscreen => exact forward_turn rfl

/-- A surface keeps having a role. -/
theorem Turn.roled {act : Act} {before : Option Surface} {after : Surface} {sent : List Configure}
    (turn : Turn shell id act before (some after) sent)
    (roled : ∀ surface, before = some surface → surface.role ≠ .unset) : after.role ≠ .unset := by
  cases turn with
  | rest => exact roled after rfl
  | window => simp
  | popup => simp
  | declareMin size done | declareMax size done =>
    rw [Surface.changeToplevel_ok done]
    simpa using roled _ rfl
  | ack raw done =>
    have kept := roled _ rfl
    obtain ⟨acked, rest, -, rfl⟩ := Surface.ack_ok done
    exact kept
  | commit commit done => exact Surface.commit_roled done
  | invite commit done due =>
    have kept := Surface.commit_roled done
    obtain ⟨-, -, rfl, -⟩ := Surface.schedule_some due
    exact kept
  | agree => simpa [Surface.setPending] using roled _ rfl
  | propose asked due =>
    obtain ⟨-, -, same, -⟩ := Surface.schedule_some due
    rw [same]
    simpa [Surface.setPending] using roled _ rfl

/-- Every surface has a role after an act too. -/
theorem perform_roled (roled : shell.Roled) (act : Act) : (shell.perform act).shell.Roled := by
  intro id after present
  obtain ⟨sent, -, turn⟩ := perform_turn roled act id
  rw [present] at turn
  exact turn.roled (roled id)

end Turns

theorem fresh_roled (settings : Settings) (seats : Table SeatId SeatMode) (refusals : Nat) :
    (fresh settings seats refusals).Roled := fun _ _ present => by cases present

theorem Reached.roled {count : Nat} {shell : Shell} (reached : Reached count shell) :
    shell.Roled := by
  induction reached with
  | fresh _ settings seats refusals => exact fresh_roled settings seats refusals
  | act act _ ih => exact perform_roled ih act

theorem performAll_roled {shell : Shell} (roled : shell.Roled) (acts : List Act) :
    (shell.performAll acts).Roled := by
  induction acts generalizing shell with
  | nil => exact roled
  | cons act acts ih => exact ih (perform_roled roled act)

end Shell

end WindowShell
