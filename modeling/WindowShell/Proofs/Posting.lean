/-
**What an act posts.**

Everything a client is asked for goes through the outbox, and the serials of configures and pings come
from one counter for all surfaces. An act takes at most one serial, and it takes one exactly if it posts a
message that carries it. Closing a window and dismissing a popup are asked for without a serial:

* `Posts`: what an act adds to the outbox, and the serial it takes for it;
* `configure_posts`, `ping_posts`, `closeWindow_posts`: the three ways of posting something;
* `perform_posts`: every act posts in this way.
-/

import WindowShell.Proofs.Turn

namespace WindowShell

namespace Shell

/-- **From one shell to another messages are posted.** Either no serial is taken and none of them carries
one, or the next serial is taken and one of them carries it. -/
def Posts (before after : Shell) : Prop :=
  ∃ messages, after.outbox = before.outbox ++ messages ∧
    (after.serials = before.serials ∧ messages.filterMap Message.serial? = [] ∨
      after.serials = before.serials.allocate.2 ∧
        messages.filterMap Message.serial? = [before.serials.next])

section Serials

variable {shell before middle after : Shell}

/-- Nothing is posted. -/
theorem Posts.nothing (serials : after.serials = before.serials)
    (outbox : after.outbox = before.outbox) : Posts before after :=
  ⟨[], by rw [outbox, List.append_nil], .inl ⟨serials, rfl⟩⟩

/-- One message is posted, under the next serial. -/
theorem Posts.one {message : Message} (serials : after.serials = before.serials.allocate.2)
    (outbox : after.outbox = before.outbox ++ [message])
    (carries : message.serial? = some before.serials.next) : Posts before after :=
  ⟨[message], outbox, .inr ⟨serials, by simp [carries]⟩⟩

theorem Posts.of_clientSide (posts : Posts before middle)
    (same : after.clientSide = middle.clientSide) : Posts before after := by
  rwa [Posts, serials_of_clientSide same, outbox_of_clientSide same]

theorem configure_posts (id : SurfaceId) (surface : Surface) (force : Bool) :
    Posts shell (shell.configure id surface force).1 := by
  rcases configure_cases shell id surface force with ⟨-, stored⟩ | ⟨_, _, _, due, stored⟩
  · rw [stored]
    exact .nothing rfl rfl
  · obtain ⟨-, serial, -, counted⟩ := Surface.schedule_some due
    rw [stored]
    exact .one counted rfl (congrArg some serial)

theorem followed_posts (id : SurfaceId) (surface : Surface) (effect : CommitEffect) :
    Posts shell (shell.followed id surface effect) := by
  have stored : Posts shell (shell.putSurface id surface) := .nothing rfl rfl
  cases effect with
  | settled => exact stored
  | needsConfigure => exact configure_posts id surface true
  | mapped | unmapped => exact stored.of_clientSide (emit_clientSide _ _ _)

theorem ping_posts (id : SurfaceId) : Posts shell (shell.ping id) := by
  unfold ping
  split
  · exact .one rfl rfl rfl
  · exact .nothing rfl rfl

/-- A message that asks a surface to go away carries no serial. -/
theorem closeMessage?_unnumbered {surface : Surface} {window : SurfaceId} {message : Message}
    (closes : surface.closeMessage? window = some message) : message.serial? = none := by
  unfold Surface.closeMessage? at closes
  split at closes <;> cases closes <;> rfl

theorem closeWindow_posts (view : View) (surface : Surface) :
    Posts shell (shell.closeWindow view surface) := by
  refine ⟨_, rfl, .inl ⟨rfl, List.filterMap_eq_nil_iff.mpr fun message member => ?_⟩⟩
  obtain ⟨closed, window, closes⟩ := shell.mem_closing member
  exact closeMessage?_unnumbered closes

theorem newToplevel_posts (roled : shell.Roled) (id : SurfaceId) :
    Posts shell (shell.newToplevel id).shell := by
  rcases newToplevel_cases roled id with ⟨fault, refused⟩ | ⟨-, taken⟩
  · rw [refused]
    exact .nothing rfl rfl
  · rw [taken]
    have pinged : Posts shell ((shell.putSurface id { role := .toplevel {} }).ping id) :=
      @ping_posts (shell.putSurface id _) id
    exact pinged.of_clientSide (createView_clientSide _ _)

theorem newPopup_posts (roled : shell.Roled) (id parent : SurfaceId) (geometry : Rectangle) :
    Posts shell (shell.newPopup id parent geometry).shell := by
  rcases newPopup_cases roled id parent geometry with ⟨fault, refused⟩ | ⟨-, taken⟩
  · rw [refused]
    exact .nothing rfl rfl
  · rw [taken]
    have stored : Posts shell (shell.putSurface id { role := .popup parent geometry }) :=
      .nothing rfl rfl
    exact stored.of_clientSide (emit_clientSide _ _ _)

theorem changeSurface_posts (id : SurfaceId) (act : SurfaceM Unit) :
    Posts shell (shell.changeSurface id act).shell := by
  rcases changeSurface_stores shell id act with kept | ⟨_, stored⟩
  · rw [kept]
    exact .nothing rfl rfl
  · rw [stored]
    exact .nothing rfl rfl

theorem forward_posts (id : SurfaceId) (signal : Signal) :
    Posts shell (shell.forward id signal).shell := by
  have same : Posts shell shell := .nothing rfl rfl
  rcases forward_cases shell id signal with ⟨fault, refused⟩ | taken
  · rwa [refused]
  · rw [taken]
    exact same.of_clientSide (emit_clientSide _ _ _)

theorem commit_posts (id : SurfaceId) (commit : Commit) :
    Posts shell (shell.commit id commit).shell := by
  rcases commit_cases shell id commit with ⟨fault, refused⟩ | ⟨_, after, effect, -, -, taken⟩
  · rw [refused]
    exact .nothing rfl rfl
  · rw [taken]
    exact (followed_posts id after effect).of_clientSide (emit_clientSide _ _ _)

theorem destroy_posts (root : SurfaceId) : Posts shell (shell.destroy root).shell := by
  obtain ⟨ids, gone⟩ := destroy_removes shell root
  rw [gone]
  exact .nothing (removeAll_serials _ _) (removeAll_outbox _ _)

theorem call_posts (id : ViewId) (call : WindowCall) : Posts shell (shell.call id call) := by
  have same : Posts shell shell := .nothing rfl rfl
  have carried := call_carried shell id call
  generalize shell.call id call = after at carried
  cases carried with
  | forget => exact same.of_clientSide (forgetView_clientSide _ _)
  | miss => exact same
  | close => exact closeWindow_posts _ _
  | propose => exact configure_posts _ _ _
  | moveResize =>
    exact (configure_posts _ _ _).of_clientSide (moveResize_clientSide _ _ _ _ _ _ _)

/-- **Every act posts**: it takes at most one serial, and then a message carries it. -/
theorem perform_posts (roled : shell.Roled) (act : Act) : Posts shell (shell.perform act).shell := by
  cases act with
  | call view call => exact call_posts view call
  | request request =>
    cases request with
    | newToplevel surface => exact newToplevel_posts roled surface
    | newPopup surface parent geometry => exact newPopup_posts roled surface parent geometry
    | setMinSize | setMaxSize | ack => exact changeSurface_posts _ _
    | commit surface commit => exact commit_posts surface commit
    | move | resize | maximize | fullscreen => exact forward_posts _ _
    | destroy root => exact destroy_posts root

end Serials

end Shell

end WindowShell
