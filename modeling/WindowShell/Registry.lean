/-
**The registry of listeners.**

A registration ties one kind of signal of one surface to the view or popup that handles it. It gets a
number of its own, counted from one and never used again, and stays live until it is released. The
registry remembers how many registrations it has released, so that nothing is lost:

* `subscribe_live`, `release_live`: what the two operations do to the live registrations;
* `balanced_subscribe`, `balanced_release`: live and released registrations together are all those ever
  made;
* `releaseAll_conserves`: what is released is not lost.
-/

import WindowShell.Signal
import WindowShell.Table

namespace WindowShell

/-- The number of a registration. -/
structure ListenerId where
  /-- The count of registrations made when this one was. -/
  val : Nat
deriving DecidableEq, Repr

/-- One listener: which signal of which surface it hears, and who handles it. -/
structure Registration where
  surface : SurfaceId
  kind : SignalKind
  target : ListenerTarget
deriving DecidableEq, Repr

/-- The live registrations, in the order in which they were made. -/
structure Registry where
  /-- How many registrations were ever made. -/
  issued : Nat := 0
  live : Table ListenerId Registration := .empty
  /-- How many registrations were released. -/
  released : Nat := 0
deriving DecidableEq

namespace Registry

/-- Whether a registration is live. -/
def isLive (registry : Registry) (id : ListenerId) : Bool := registry.live.contains id

/-- How many registrations are live. -/
def size (registry : Registry) : Nat := registry.live.size

/-- Makes a registration. -/
def subscribe (registry : Registry) (registration : Registration) : Registry × ListenerId :=
  let id : ListenerId := ⟨registry.issued + 1⟩
  ({ registry with issued := id.val, live := registry.live.insert id registration }, id)

/-- Makes one registration for each kind of signal, in order. -/
def install (registry : Registry) (surface : SurfaceId) (target : ListenerTarget) :
    List SignalKind → Registry × List ListenerId
  | [] => (registry, [])
  | kind :: kinds =>
    let (registry, id) := registry.subscribe { surface, kind, target }
    let (registry, ids) := registry.install surface target kinds
    (registry, id :: ids)

/-- Releases a registration, if it is live. -/
def release (registry : Registry) (id : ListenerId) : Registry :=
  if registry.isLive id then
    { registry with live := registry.live.erase id, released := registry.released + 1 }
  else registry

/-- Releases several registrations. -/
def releaseAll (registry : Registry) (ids : List ListenerId) : Registry :=
  ids.foldl release registry

/-- The listeners of a signal, in the order in which they registered. -/
def listeners (registry : Registry) (surface : SurfaceId) (kind : SignalKind) :
    List (ListenerId × ListenerTarget) :=
  (registry.live.entries.filter fun entry =>
    entry.2.surface = surface && entry.2.kind = kind).map fun entry => (entry.1, entry.2.target)

/-- How many live registrations a target has. -/
def countFor (registry : Registry) (target : ListenerTarget) : Nat :=
  registry.live.values.countP fun registration => registration.target = target

/-! ## What the operations do to the live registrations -/

/-- Every live registration was made. -/
def Numbered (registry : Registry) : Prop := ∀ id ∈ registry.live.keys, id.val ≤ registry.issued

theorem numbered_fresh : ({} : Registry).Numbered := by simp [Numbered]

theorem not_mem_next {registry : Registry} (numbered : registry.Numbered) :
    (⟨registry.issued + 1⟩ : ListenerId) ∉ registry.live.keys := fun member =>
  absurd (numbered _ member) (by simp)

/-- A new registration is live besides all others. -/
theorem subscribe_live (registry : Registry) (registration : Registration) (id : ListenerId) :
    (registry.subscribe registration).1.live.get? id =
      if id = ⟨registry.issued + 1⟩ then some registration else registry.live.get? id :=
  Table.get?_insert _ _ _ _

/-- A released registration is not live; all others are as before. -/
theorem release_live (registry : Registry) (id other : ListenerId) :
    (registry.release id).live.get? other =
      if other = id then none else registry.live.get? other := by
  unfold release
  split
  · exact Table.get?_erase _ _ _
  · next dead =>
    split
    · next same =>
      subst same
      simpa [isLive, Table.contains] using dead
    · rfl

theorem numbered_subscribe {registry : Registry} (numbered : registry.Numbered)
    (registration : Registration) : (registry.subscribe registration).1.Numbered := by
  intro id member
  simp only [subscribe] at member ⊢
  rw [Table.keys_insert_of_not_mem (not_mem_next numbered), List.mem_append] at member
  rcases member with old | new
  · exact Nat.le_succ_of_le (numbered id old)
  · have same := List.mem_singleton.mp new
    subst same
    exact Nat.le_refl _

theorem numbered_release {registry : Registry} (numbered : registry.Numbered) (id : ListenerId) :
    (registry.release id).Numbered := by
  unfold release
  split
  · intro other member
    simp only [Table.keys_erase, List.mem_filter] at member
    exact numbered other member.1
  · exact numbered

/-- Live and released registrations are together as many as were ever made. -/
def Balanced (registry : Registry) : Prop := registry.size + registry.released = registry.issued

theorem balanced_subscribe {registry : Registry} (numbered : registry.Numbered)
    (balanced : registry.Balanced) (registration : Registration) :
    (registry.subscribe registration).1.Balanced := by
  simp only [Balanced, subscribe, size, Table.size_eq_length_keys] at balanced ⊢
  rw [Table.keys_insert_of_not_mem (not_mem_next numbered), List.length_append,
    List.length_singleton]
  omega

/-- A release takes from the live registrations what it adds to the released ones. -/
theorem release_conserves (registry : Registry) (id : ListenerId) :
    (registry.release id).size + (registry.release id).released =
      registry.size + registry.released := by
  unfold release
  split
  · next live =>
    have member : id ∈ registry.live.keys := Table.get?_isSome_iff.mp live
    have shorter : (registry.live.keys.filter (· ≠ id)).length = registry.live.keys.length - 1 := by
      rw [← List.length_erase_of_mem member, registry.live.keys_nodup.erase_eq_filter id]
      congr 2
      funext other
      by_cases same : other = id <;> simp [same]
    have positive := List.length_pos_of_mem member
    simp only [size, Table.size_eq_length_keys, Table.keys_erase]
    rw [shorter]
    omega
  · rfl

theorem releaseAll_conserves (registry : Registry) (ids : List ListenerId) :
    (registry.releaseAll ids).size + (registry.releaseAll ids).released =
      registry.size + registry.released := by
  induction ids generalizing registry with
  | nil => rfl
  | cons id ids ih => exact (ih (registry.release id)).trans (registry.release_conserves id)

theorem balanced_release {registry : Registry} (balanced : registry.Balanced) (id : ListenerId) :
    (registry.release id).Balanced := by
  have issued : (registry.release id).issued = registry.issued := by
    unfold release
    split <;> rfl
  rw [Balanced, release_conserves, issued]
  exact balanced

end Registry

end WindowShell
