/-
**What a client is told is what was asked.**

A configure for a window carries the state that window management wants of it, and this state is put
together from the calls on its view: each flag is the one of the last call that names it, and the size is
the one of the last call that names a size, between the bounds that the window held at that call. Nothing
the client does changes what was asked. A configure for a popup carries the geometry it was created with,
and pings and the ways of asking a surface to go away are chosen by its role:

* `wished_snoc`: what one more act adds to what was asked;
* `Lifetime.wished`, `Lifetime.placed`: a window is wanted to be what was asked of it, and a popup stays
  where it was put;
* `perform_addresses`: what an act posts is addressed to surfaces that it suits;
* `messages_say_what_was_asked`: so every message says what was asked by then.
-/

import WindowShell.Proofs.Latching

namespace WindowShell

/-! ### What a call names -/

namespace WindowCall

/-- The focus that a call names. -/
def activation? : WindowCall → Option Bool
  | .activate active => some active
  | _ => none

/-- Whether a window is to be maximized, if a call names that. -/
def maximization? : WindowCall → Option Bool
  | .maximize maximized => some maximized
  | _ => none

/-- Whether a window is to be in fullscreen, if a call names that. -/
def coverage? : WindowCall → Option Bool
  | .fullscreen covers => some covers
  | _ => none

/-- The size that a call names, between the bounds of the window. -/
def extent? (bounds : SizeBounds) : WindowCall → Option Extent
  | .resize size | .moveResize _ size => some (bounds.constrain size)
  | _ => none

/-- What a call makes of a state: it keeps what it does not name. -/
def onto (call : WindowCall) (bounds : SizeBounds) (state : ToplevelState) : ToplevelState where
  size := (call.extent? bounds).getD state.size
  maximized := call.maximization?.getD state.maximized
  fullscreen := call.coverage?.getD state.fullscreen
  activated := call.activation?.getD state.activated

variable {call : WindowCall} {bounds : SizeBounds} {change : ToplevelState → ToplevelState}

/-- A call that asks for a state asks for what it names. -/
theorem onto_of_asked (asked : call.change? bounds = some change) : call.onto bounds = change := by
  cases call <;> cases asked <;> rfl

/-- A call that asks for no state names nothing. -/
theorem onto_of_unasked (unasked : call.change? bounds = none) (state : ToplevelState) :
    call.onto bounds state = state := by
  cases call <;> cases unasked <;> rfl

end WindowCall

namespace Shell

/-- The call that an act makes on the window of a surface, with the size bounds that the window holds. -/
def callOn? (id : SurfaceId) (shell : Shell) : Act → Option (WindowCall × SizeBounds)
  | .request _ => none
  | .call view call =>
    match shell.window? view with
    | none => none
    | some (record, _, toplevel) => if record.surface = id then some (call, toplevel.bounds) else none

/-- **The state that a run asks of the window on a surface**: each flag is the one of the last call that
names it, and the size is that of the last call that names one. -/
def wished (shell : Shell) (id : SurfaceId) (acts : List Act) : ToplevelState where
  size := (shell.newest? (fun shell act => (shell.callOn? id act).bind fun made =>
    made.1.extent? made.2) acts).getD {}
  maximized := (shell.newest? (fun shell act => (shell.callOn? id act).bind fun made =>
    made.1.maximization?) acts).getD false
  fullscreen := (shell.newest? (fun shell act => (shell.callOn? id act).bind fun made =>
    made.1.coverage?) acts).getD false
  activated := (shell.newest? (fun shell act => (shell.callOn? id act).bind fun made =>
    made.1.activation?) acts).getD false

section Wishing

variable {start shell : Shell} {id : SurfaceId} {acts front life : List Act} {act : Act}
  {surface after : Surface} {sent : List Configure}

theorem asked?_eq (shell : Shell) (id : SurfaceId) (act : Act) :
    shell.asked? id act = (shell.callOn? id act).bind fun made => made.1.change? made.2 := by
  cases act with
  | request => rfl
  | call view call =>
    simp only [asked?, callOn?]
    cases shell.window? view with
    | none => rfl
    | some found =>
      obtain ⟨record, surface, toplevel⟩ := found
      show (if record.surface = id then _ else _) = Option.bind (if record.surface = id then _ else _) _
      split <;> rfl

/-- What one more act names comes before all that was named earlier. -/
theorem newest?_call {α : Type} (default : α) (named? : WindowCall × SizeBounds → Option α) :
    (shell.newest? (fun shell act => (shell.callOn? id act).bind named?) (acts ++ [act])).getD default =
      (((shell.performAll acts).callOn? id act).bind named?).getD
        ((shell.newest? (fun shell act => (shell.callOn? id act).bind named?) acts).getD default) := by
  cases act with
  | request request =>
    rw [newest?_of_unnamed rfl]
    rfl
  | call view call => rw [newest?_of_accepted rfl, Option.getD_or]

/-- **One more act** changes what was asked by the call that it makes. -/
theorem wished_snoc (shell : Shell) (id : SurfaceId) (acts : List Act) (act : Act) :
    shell.wished id (acts ++ [act]) =
      match (shell.performAll acts).callOn? id act with
      | none => shell.wished id acts
      | some (call, bounds) => call.onto bounds (shell.wished id acts) := by
  simp only [wished, newest?_call]
  cases (shell.performAll acts).callOn? id act <;> rfl

/-- An act that asks nothing of a window adds nothing to what was asked of it. -/
theorem wished_of_unasked (unasked : (shell.performAll acts).asked? id act = none) :
    shell.wished id (acts ++ [act]) = shell.wished id acts := by
  rw [asked?_eq] at unasked
  rw [wished_snoc]
  cases made : (shell.performAll acts).callOn? id act with
  | none => rfl
  | some found =>
    rw [made] at unasked
    exact WindowCall.onto_of_unasked unasked _

theorem wished_of_asked {change : ToplevelState → ToplevelState}
    (asked : (shell.performAll acts).asked? id act = some change) :
    shell.wished id (acts ++ [act]) = change (shell.wished id acts) := by
  rw [asked?_eq, Option.bind_eq_some_iff] at asked
  obtain ⟨⟨call, bounds⟩, made, named⟩ := asked
  rw [wished_snoc, made, ← WindowCall.onto_of_asked named]

/-! ### What a surface keeps of it -/

/-- Only what is asked of a window changes what is wanted of it. -/
theorem Turn.wanted (turn : Turn shell id act (some surface) (some after) sent) :
    shell.asked? id act = none ∧ after.wanted? = surface.wanted? ∨
      ∃ change, shell.asked? id act = some change ∧ after.wanted? = surface.wanted?.map change := by
  cases turn with
  | rest _ unasked => exact .inl ⟨unasked, rfl⟩
  | declareMin size done | declareMax size done =>
    exact .inl ⟨rfl, Surface.wanted?_changeToplevel done fun _ => rfl⟩
  | ack raw done =>
    obtain ⟨_, _, -, rfl⟩ := Surface.ack_ok done
    exact .inl ⟨rfl, rfl⟩
  | commit commit done => exact .inl ⟨rfl, Surface.wanted?_commit done⟩
  | invite commit done due =>
    have same := Surface.wanted?_commit done
    obtain ⟨-, -, rfl, -⟩ := Surface.schedule_some due
    exact .inl ⟨rfl, same⟩
  | agree asked => exact .inr ⟨_, asked, Surface.wanted?_setPending _ _⟩
  | propose asked due =>
    obtain ⟨-, -, rfl, -⟩ := Surface.schedule_some due
    exact .inr ⟨_, asked, Surface.wanted?_setPending _ _⟩

/-- Nothing changes the place of a popup. -/
theorem Turn.bare (turn : Turn shell id act (some surface) (some after) sent) :
    after.role.bare = surface.role.bare := by
  cases turn with
  | rest => rfl
  | declareMin size done | declareMax size done => exact Surface.bare_changeToplevel done
  | ack raw done => exact congrArg Role.bare (Surface.role_ack done)
  | commit commit done => exact Surface.bare_commit done
  | invite commit done due =>
    have same := Surface.bare_commit done
    obtain ⟨-, -, rfl, -⟩ := Surface.schedule_some due
    exact same
  | agree => exact Role.bare_mapToplevel _ _
  | propose asked due =>
    obtain ⟨-, -, rfl, -⟩ := Surface.schedule_some due
    exact Role.bare_mapToplevel _ _

/-- **A window is wanted to be what was asked of it** in its lifetime. -/
theorem Lifetime.wished (current : Lifetime start id acts front life) (roled : start.Roled)
    (found : (start.performAll acts).surfaces.get? id = some surface) :
    surface.wanted? = none ∨ surface.wanted? = some ((start.performAll front).wished id life) := by
  refine current.arising (motive := fun life surface => surface.wanted? = none ∨
    surface.wanted? = some ((start.performAll front).wished id life)) roled found ?arises ?continues
  case arises =>
    rintro earlier creating role - arises
    cases arises with
    | window => exact .inr rfl
    | popup => exact .inl rfl
  case continues =>
    intro life act surface after roled present found wished
    obtain ⟨sent, -, turn⟩ := perform_turn roled act id
    rw [present, found] at turn
    rcases turn.wanted with ⟨unasked, same⟩ | ⟨change, asked, changed⟩
    · rwa [same, wished_of_unasked unasked]
    · rw [changed, wished_of_asked asked]
      exact wished.imp (congrArg (Option.map change)) (congrArg (Option.map change))

/-- **A popup is where it was put** when it was created. -/
theorem Lifetime.placed (current : Lifetime start id acts front life) (roled : start.Roled)
    (found : (start.performAll acts).surfaces.get? id = some surface) {parent : SurfaceId}
    {geometry : Rectangle} (popup : surface.role = .popup parent geometry) :
    ∃ earlier, front = earlier ++ [.request (.newPopup id parent geometry)] := by
  refine current.arising (motive := fun _ surface => surface.role.bare = .popup parent geometry →
    ∃ earlier, front = earlier ++ [.request (.newPopup id parent geometry)]) roled found ?arises
    ?continues (congrArg Role.bare popup)
  case arises =>
    rintro earlier creating role rfl arises placed
    cases arises with
    | window => cases placed
    | popup =>
      cases placed
      exact ⟨earlier, rfl⟩
  case continues =>
    intro life act surface after roled present found placed popup
    obtain ⟨sent, -, turn⟩ := perform_turn roled act id
    rw [present, found] at turn
    exact placed (turn.bare ▸ popup)

end Wishing

end Shell

/-! ### Messages and the surfaces they are addressed to -/

/-- **A message suits a surface**: a configure carries what is wanted of a window or the place of a
popup, windows are pinged and asked to close, and popups are dismissed. -/
def Message.Suits (surface : Surface) : Message → Prop
  | .configure _ sent =>
    match surface.role with
    | .unset => False
    | .toplevel toplevel => sent.payload = .toplevel toplevel.pending
    | .popup _ geometry => sent.payload = .popup geometry
  | .close _ | .ping _ _ => surface.isToplevel
  | .popupDone _ => surface.isPopup

/-- A configure that is due suits its surface. -/
theorem Surface.schedule_suits {surface after : Surface} {serials next : SerialCounter} {force : Bool}
    {configure : Configure} (sent : surface.schedule serials force = some (configure, after, next))
    (id : SurfaceId) : (Message.configure id configure).Suits after := by
  obtain ⟨due, -, rfl, -⟩ := schedule_some sent
  unfold duePayload? at due
  unfold Message.Suits
  split at due
  · cases due
  · next toplevel window =>
    split at due
    · cases due
    · simp [window, (Option.some.inj due).symm]
  · next parent geometry popup =>
    split at due
    · simp [popup, (Option.some.inj due).symm]
    · cases due

/-- So does the message that asks it to go away. -/
theorem Surface.closeMessage?_suits {surface : Surface} {id : SurfaceId} {message : Message}
    (closes : surface.closeMessage? id = some message) : message.Suits surface := by
  unfold closeMessage? at closes
  split at closes
  · cases closes
  · next toplevel window =>
    obtain rfl := Option.some.inj closes
    exact isToplevel_iff.mpr ⟨toplevel, window⟩
  · next popup =>
    obtain rfl := Option.some.inj closes
    show surface.isPopup
    rw [isPopup, popup]
    rfl

namespace Shell

/-- **From one shell to another messages are addressed** to surfaces that are there then, and that they
suit. -/
def Addresses (before after : Shell) : Prop :=
  ∃ messages, after.outbox = before.outbox ++ messages ∧ ∀ message ∈ messages,
    ∃ surface, after.surfaces.get? message.surface = some surface ∧ message.Suits surface

section Addressing

variable {shell before middle after : Shell}

theorem Addresses.nothing (outbox : after.outbox = before.outbox) : Addresses before after :=
  ⟨[], by rw [outbox, List.append_nil], nofun⟩

theorem Addresses.one {message : Message} {surface : Surface}
    (outbox : after.outbox = before.outbox ++ [message])
    (there : after.surfaces.get? message.surface = some surface) (suits : message.Suits surface) :
    Addresses before after := by
  refine ⟨[message], outbox, fun other member => ?_⟩
  obtain rfl := List.mem_singleton.mp member
  exact ⟨surface, there, suits⟩

theorem Addresses.of_clientSide (addresses : Addresses before middle)
    (same : after.clientSide = middle.clientSide) : Addresses before after := by
  rwa [Addresses, surfaces_of_clientSide same, outbox_of_clientSide same]

theorem configure_addresses (id : SurfaceId) (surface : Surface) (force : Bool) :
    Addresses shell (shell.configure id surface force).1 := by
  rcases configure_cases shell id surface force with ⟨-, stored⟩ | ⟨_, _, _, due, stored⟩
  · rw [stored]
    exact .nothing rfl
  · rw [stored]
    exact .one rfl (putSurface_surface _ _ _) (Surface.schedule_suits due id)

theorem followed_addresses (id : SurfaceId) (surface : Surface) (effect : CommitEffect) :
    Addresses shell (shell.followed id surface effect) := by
  have stored : Addresses shell (shell.putSurface id surface) := .nothing rfl
  cases effect with
  | settled => exact stored
  | needsConfigure => exact configure_addresses id surface true
  | mapped | unmapped => exact stored.of_clientSide (emit_clientSide _ _ _)

theorem closeWindow_addresses {id : ViewId} {view : View} {surface : Surface} {toplevel : Toplevel}
    (window : shell.window? id = some (view, surface, toplevel)) :
    Addresses shell (shell.closeWindow view surface) := by
  refine ⟨_, rfl, fun message member => ?_⟩
  rcases List.mem_append.mp member with dismissed | closed
  · obtain ⟨popup, -, found⟩ := List.mem_filterMap.mp dismissed
    simp only [Option.bind_eq_bind, Option.bind_eq_some_iff] at found
    obtain ⟨record, -, closed, present, closes⟩ := found
    refine ⟨closed, ?_, Surface.closeMessage?_suits closes⟩
    rw [closeMessage?_surface closes]
    exact present
  · have closes := Option.mem_toList.mp closed
    refine ⟨surface, ?_, Surface.closeMessage?_suits closes⟩
    rw [closeMessage?_surface closes]
    exact (window?_eq_some.mp window).2.1

theorem newToplevel_addresses (roled : shell.Roled) (id : SurfaceId) :
    Addresses shell (shell.newToplevel id).shell := by
  rcases newToplevel_cases roled id with ⟨fault, refused⟩ | ⟨-, taken⟩
  · rw [refused]
    exact .nothing rfl
  · rw [taken]
    have pinged : Addresses shell ((shell.putSurface id { role := .toplevel {} }).ping id) := by
      unfold ping
      split
      · exact .one rfl (putSurface_surface shell id _) rfl
      · exact .nothing rfl
    exact pinged.of_clientSide (createView_clientSide _ _)

theorem call_addresses (id : ViewId) (call : WindowCall) : Addresses shell (shell.call id call) := by
  have same : Addresses shell shell := .nothing rfl
  have carried := call_carried shell id call
  generalize shell.call id call = after at carried
  cases carried with
  | forget => exact same.of_clientSide (forgetView_clientSide _ _)
  | miss => exact same
  | close window => exact closeWindow_addresses window
  | propose => exact configure_addresses _ _ _
  | moveResize =>
    exact (configure_addresses _ _ _).of_clientSide (moveResize_clientSide _ _ _ _ _ _ _)

/-- **Every act addresses** surfaces that are there when it is done, and that the messages suit. -/
theorem perform_addresses (roled : shell.Roled) (act : Act) :
    Addresses shell (shell.perform act).shell := by
  cases act with
  | call view call => exact call_addresses view call
  | request request =>
    have same : Addresses shell shell := .nothing rfl
    cases request with
    | newToplevel surface => exact newToplevel_addresses roled surface
    | newPopup surface parent geometry =>
      rcases newPopup_cases roled surface parent geometry with ⟨fault, refused⟩ | ⟨-, taken⟩
      · rwa [perform, handle, refused]
      · have stored : Addresses shell (shell.putSurface surface { role := .popup parent geometry }) :=
          .nothing rfl
        rw [perform, handle, taken]
        exact stored.of_clientSide (emit_clientSide _ _ _)
    | setMinSize surface | setMaxSize surface | ack surface =>
      rw [perform, handle]
      rcases changeSurface_stores shell surface _ with kept | ⟨_, stored⟩
      · rwa [kept]
      · rw [stored]
        exact .nothing rfl
    | commit surface commit =>
      rcases commit_cases shell surface commit with ⟨fault, refused⟩ | ⟨_, after, effect, -, -, taken⟩
      · rwa [perform, handle, refused]
      · rw [perform, handle, taken]
        exact (followed_addresses surface after effect).of_clientSide (emit_clientSide _ _ _)
    | move surface | resize surface | maximize surface | fullscreen surface =>
      rw [perform, handle]
      rcases forward_cases shell surface _ with ⟨fault, refused⟩ | taken
      · rwa [refused]
      · rw [taken]
        exact same.of_clientSide (emit_clientSide _ _ _)
    | destroy root =>
      obtain ⟨ids, gone⟩ := destroy_removes shell root
      rw [perform, handle, gone]
      exact .nothing (removeAll_outbox _ _)

end Addressing

/-! ### Every message of a run -/

/-- **What a message says to a surface** was asked of it in its lifetime: a configure carries the state
that the calls on its view ask for, or the geometry of the request that created the popup. Windows are
pinged and asked to close, and popups are dismissed. -/
def Conveys (start : Shell) (front life : List Act) (surface : Surface) : Message → Prop
  | .configure id sent =>
    match surface.role with
    | .unset => False
    | .toplevel _ => sent.payload = .toplevel ((start.performAll front).wished id life)
    | .popup parent geometry => sent.payload = .popup geometry ∧
        ∃ earlier, front = earlier ++ [.request (.newPopup id parent geometry)]
  | .close _ | .ping _ _ => surface.isToplevel
  | .popupDone _ => surface.isPopup

section Messages

variable {start : Shell} {acts front life : List Act} {message : Message} {surface : Surface}

/-- A message that suits a surface says what was asked of it. -/
theorem Lifetime.conveys (current : Lifetime start message.surface acts front life) (roled : start.Roled)
    (found : (start.performAll acts).surfaces.get? message.surface = some surface)
    (suits : message.Suits surface) : start.Conveys front life surface message := by
  cases message with
  | close | popupDone | ping => exact suits
  | configure id sent =>
    have wished := current.wished roled found
    simp only [Conveys, Message.Suits] at suits ⊢
    split at suits
    · exact suits
    · next toplevel window =>
      rw [Surface.wanted?_of_role window] at wished
      obtain wanted := wished.resolve_left nofun
      rw [suits, Option.some.inj wanted]
      rfl
    · next parent geometry popup => exact ⟨suits, current.placed roled found popup⟩

/-- What stands in the outbox after a run was put there by one of its acts. -/
theorem outbox_origin (roled : start.Roled) (empty : start.outbox = []) {place : Nat}
    (found : (start.performAll acts).outbox[place]? = some message) :
    ∃ before act after, acts = before ++ act :: after ∧
      (start.performAll before).outbox.length ≤ place ∧
      (start.performAll (before ++ [act])).outbox[place]? = some message := by
  induction acts using List.reverseRecOn with
  | nil =>
    rw [performAll_nil, empty] at found
    cases found
  | append_singleton acts act ih =>
    by_cases earlier : place < (start.performAll acts).outbox.length
    · obtain ⟨messages, grows, -⟩ := perform_addresses (performAll_roled roled acts) act
      rw [performAll_append, performAll_cons, performAll_nil, grows,
        List.getElem?_append_left earlier] at found
      obtain ⟨before, first, after, rfl, late, there⟩ := ih found
      exact ⟨before, first, after ++ [act], by simp, late, there⟩
    · exact ⟨acts, act, [], rfl, by omega, found⟩

/-- **What a client is told is what was asked.** Whatever stands in the outbox after any run was put
there by one act, for a surface that was there when the act was done; and it said to this surface what
had been asked of it by then, since it was created. -/
theorem messages_say_what_was_asked (begins : Reached 0 start) (acts : List Act) (place : Nat)
    (message : Message) (found : (start.performAll acts).outbox[place]? = some message) :
    ∃ before act after, acts = before ++ act :: after ∧
      (start.performAll before).outbox.length ≤ place ∧
      (start.performAll (before ++ [act])).outbox[place]? = some message ∧
      ∃ surface front life,
        (start.performAll (before ++ [act])).surfaces.get? message.surface = some surface ∧
        Lifetime start message.surface (before ++ [act]) front life ∧
        start.Conveys front life surface message := by
  have empty : start.outbox = [] := by
    cases begins
    rfl
  obtain ⟨before, act, after, split, late, there⟩ := outbox_origin begins.roled empty found
  refine ⟨before, act, after, split, late, there, ?_⟩
  obtain ⟨messages, grows, addressed⟩ := perform_addresses (begins.performAll before).roled act
  have sent : message ∈ messages := by
    rw [performAll_append, performAll_cons, performAll_nil, grows,
      List.getElem?_append_right late] at there
    exact List.mem_of_getElem? there
  obtain ⟨surface, present, suits⟩ := addressed message sent
  have stays : (start.performAll (before ++ [act])).surfaces.get? message.surface = some surface := by
    rwa [performAll_append]
  obtain ⟨front, life, current⟩ := lifetime_exists (begins.untouched _) _ stays
  exact ⟨surface, front, life, stays, current, current.conveys begins.roled stays suits⟩

/-- A window with a popup is resized below its least size, focused and maximized. It is hidden and asks
to be shown again, and then it is asked to close. -/
def askedThroughout : List Act :=
  [ .request (.newToplevel ⟨1⟩),
    .request (.newPopup ⟨2⟩ ⟨1⟩ { origin := { x := 3, y := 4 }, size := { width := 5, height := 6 } }),
    .request (.setMinSize ⟨1⟩ { width := 50, height := 50 }), .request (.commit ⟨1⟩ {}),
    .call ⟨1⟩ (.resize { width := 10, height := 10 }), .call ⟨1⟩ (.activate true),
    .request (.commit ⟨2⟩ {}), .request (.ack ⟨1⟩ 3),
    .request (.commit ⟨1⟩ { buffer := .attach { width := 60, height := 60 } }),
    .request (.setMinSize ⟨1⟩ { width := 70, height := 70 }), .call ⟨1⟩ (.maximize true),
    .request (.commit ⟨1⟩ { buffer := .remove }), .request (.commit ⟨1⟩ {}), .call ⟨1⟩ .close ]

/-- The sixth message invites the window back with all that was asked of it, in the size that was allowed
when it was asked for. -/
theorem messages_say_what_was_asked_askedThroughout :
    ∃ configure front life, ((fresh { pingOnCreate := false } .empty 0).performAll
        askedThroughout).outbox[5]? = some (.configure ⟨1⟩ configure) ∧
      configure.payload = .toplevel
        { size := { width := 50, height := 50 }, maximized := true, activated := true } ∧
      ((fresh { pingOnCreate := false } .empty 0).performAll front).wished ⟨1⟩ life =
        { size := { width := 50, height := 50 }, maximized := true, activated := true } := by
  have sixth : ((fresh { pingOnCreate := false } .empty 0).performAll askedThroughout).outbox[5]? =
      some (.configure ⟨1⟩
        { serial := ⟨6, by decide⟩
          payload := .toplevel
            { size := { width := 50, height := 50 }, maximized := true, activated := true } }) := by
    decide +kernel
  obtain ⟨before, act, after, -, -, -, surface, front, life, -, -, conveyed⟩ :=
    messages_say_what_was_asked (.fresh 0 { pingOnCreate := false } .empty 0) askedThroughout 5 _ sixth
  refine ⟨_, front, life, sixth, rfl, ?_⟩
  simp only [Conveys] at conveyed
  split at conveyed
  · exact conveyed.elim
  · exact (Payload.toplevel.inj conveyed).symm
  · cases conveyed.1

end Messages

end Shell

end WindowShell
