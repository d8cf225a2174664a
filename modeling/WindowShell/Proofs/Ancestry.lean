/-
**Who hangs on whom.**

A popup is opened on a surface that is there already. So the order in which surfaces arrived puts every
parent before its children, and it stays that way when a surface goes, because whatever hangs on it goes
too. In such an order nothing hangs on itself, however long the way around, and no chain is longer than
there are surfaces. So destroying a surface ends, and without a fault:

* `ParentsFirst.shallow`, `ParentsFirst.acyclic`: chains are bounded, and nothing hangs on itself;
* `destroy_of_present`: destroying a surface removes its subtree;
* `perform_reshapes`: what an act does to the order;
* `Reached.parentsFirst`: so the order is kept, and a subtree is what its name says.
-/

import WindowShell.Proofs.Descent
import WindowShell.Proofs.Visibility

namespace WindowShell

/-- Surfaces in the order in which they arrived, each with the surface it hangs on. -/
abbrev Lineage := List (SurfaceId × Option SurfaceId)

namespace Lineage

/-- One surface hangs on another. -/
def Child (lineage : Lineage) (child parent : SurfaceId) : Prop := (child, some parent) ∈ lineage

/-- A chain of parents leads from one surface to another, or they are the same. -/
def Below (lineage : Lineage) : SurfaceId → SurfaceId → Prop := Relation.ReflTransGen (Child lineage)

/-- The surfaces. -/
def members (lineage : Lineage) : List SurfaceId := lineage.map Prod.fst

/-- **Parents arrived before their children.** -/
inductive ParentsFirst : Lineage → Prop
  | nil : ParentsFirst []
  | snoc {lineage : Lineage} {id : SurfaceId} {parent : Option SurfaceId}
      (earlier : ParentsFirst lineage) (new : id ∉ members lineage)
      (known : ∀ other, parent = some other → other ∈ members lineage) :
      ParentsFirst (lineage ++ [(id, parent)])

section Order

variable {lineage : Lineage} {id root child other : SurfaceId} {parent : Option SurfaceId}

theorem child_snoc : Child (lineage ++ [(id, parent)]) child other ↔
    Child lineage child other ∨ child = id ∧ parent = some other := by
  simp [Child, eq_comm]

theorem Child.mem (hangs : Child lineage child other) : child ∈ members lineage :=
  List.mem_map_of_mem hangs

namespace ParentsFirst

theorem parent_mem (sorted : ParentsFirst lineage) (hangs : Child lineage child other) :
    other ∈ members lineage := by
  induction sorted with
  | nil => cases hangs
  | snoc earlier new known ih =>
    rw [members, List.map_append, List.mem_append]
    rcases child_snoc.mp hangs with old | ⟨-, same⟩
    · exact .inl (ih old)
    · exact .inl (known other same)

/-- What is above another surface is there. -/
theorem root_mem (sorted : ParentsFirst lineage) (below : Below lineage child root) :
    child = root ∨ root ∈ members lineage := by
  rcases Relation.ReflTransGen.cases_tail below with same | ⟨last, -, hangs⟩
  · exact .inl same.symm
  · exact .inr (sorted.parent_mem hangs)

/-- A newcomer is above nothing but itself. -/
theorem below_snoc (earlier : ParentsFirst lineage) (new : id ∉ members lineage)
    (differ : child ≠ id) :
    Below (lineage ++ [(id, parent)]) child root ↔ Below lineage child root := by
  constructor
  · intro below
    induction below using Relation.ReflTransGen.head_induction_on with
    | refl => exact .refl
    | @head child above hangs _ ih =>
      rcases child_snoc.mp hangs with old | ⟨same, -⟩
      · refine .head old (ih fun same => new ?_)
        exact same ▸ earlier.parent_mem old
      · exact absurd same differ
  · exact Relation.ReflTransGen.mono (fun _ _ hangs => child_snoc.mpr (.inl hangs)) _ _

/-- What a newcomer is below. -/
theorem below_newcomer (earlier : ParentsFirst lineage) (new : id ∉ members lineage)
    (known : ∀ other, parent = some other → other ∈ members lineage) :
    Below (lineage ++ [(id, parent)]) id root ↔
      id = root ∨ ∃ above, parent = some above ∧ Below lineage above root := by
  have apart : ∀ above, parent = some above → above ≠ id := fun above same equal =>
    new (equal ▸ known above same)
  constructor
  · intro below
    rcases Relation.ReflTransGen.cases_head below with same | ⟨above, hangs, rest⟩
    · exact .inl same
    · rcases child_snoc.mp hangs with old | ⟨-, same⟩
      · exact absurd old.mem new
      · exact .inr ⟨above, same, (earlier.below_snoc new (apart above same)).mp rest⟩
  · rintro (rfl | ⟨above, same, rest⟩)
    · exact .refl
    · exact .head (child_snoc.mpr (.inr ⟨rfl, same⟩))
        ((earlier.below_snoc new (apart above same)).mpr rest)

/-- Nothing hangs on a newcomer. -/
theorem newcomer_bare (earlier : ParentsFirst lineage) (new : id ∉ members lineage)
    (known : ∀ other, parent = some other → other ∈ members lineage) :
    ¬ Child (lineage ++ [(id, parent)]) child id := fun hangs => by
  rcases child_snoc.mp hangs with old | ⟨-, same⟩
  · exact new (earlier.parent_mem old)
  · exact new (known id same)

/-- A newcomer makes chains longer by one at most. -/
theorem shallow_snoc {depth : Nat} (earlier : ParentsFirst lineage) (new : id ∉ members lineage)
    (known : ∀ other, parent = some other → other ∈ members lineage)
    (shallow : Shallow (Child lineage) depth root) :
    Shallow (Child (lineage ++ [(id, parent)])) (depth + 1) root := by
  induction shallow with
  | intro children ih =>
    refine .intro fun child hangs => ?_
    rcases child_snoc.mp hangs with old | ⟨rfl, -⟩
    · exact ih child old
    · exact .intro fun other hung => absurd hung (earlier.newcomer_bare new known)

/-- **No chain is longer than there are surfaces.** -/
theorem shallow (sorted : ParentsFirst lineage) (there : id ∈ members lineage) :
    Shallow (Child lineage) lineage.length id := by
  induction sorted with
  | nil => cases there
  | @snoc lineage newcomer parent earlier new known ih =>
    rw [List.length_append, List.length_singleton]
    rw [members, List.map_append, List.mem_append] at there
    rcases there with old | last
    · exact earlier.shallow_snoc new known (ih old)
    · obtain rfl : id = newcomer := List.mem_singleton.mp last
      exact .intro fun child hangs => absurd hangs (earlier.newcomer_bare new known)

/-- **Nothing hangs on itself**, however long the way around. -/
theorem acyclic (sorted : ParentsFirst lineage) (id : SurfaceId) :
    ¬ Relation.TransGen (Child lineage) id id := fun around => by
  obtain ⟨above, hangs, -⟩ := Relation.TransGen.head'_iff.mp around
  exact (sorted.shallow hangs.mem).acyclic around

/-- Where nobody stays without the surface it hangs on, the order of those who stay is kept. -/
theorem filter (sorted : ParentsFirst lineage) (keep : SurfaceId → Prop) [DecidablePred keep]
    (closed : ∀ child parent, Child lineage child parent → keep child → keep parent) :
    ParentsFirst (lineage.filter fun entry => keep entry.1) := by
  induction sorted with
  | nil => exact .nil
  | @snoc lineage id parent earlier new known ih =>
    have rest := ih fun child parent hangs => closed child parent (child_snoc.mpr (.inl hangs))
    rw [List.filter_append]
    by_cases kept : keep id
    · rw [List.filter_cons_of_pos (by simpa using kept), List.filter_nil]
      refine rest.snoc (fun member => new ?_) fun other same => ?_
      · exact (List.filter_sublist.map Prod.fst).subset member
      · obtain ⟨entry, inside, rfl⟩ := List.mem_map.mp (known other same)
        have stays := closed id entry.1 (child_snoc.mpr (.inr ⟨rfl, same⟩)) kept
        exact List.mem_map_of_mem (List.mem_filter.mpr ⟨inside, decide_eq_true stays⟩)
    · rw [List.filter_cons_of_neg (by simpa using kept), List.filter_nil, List.append_nil]
      exact rest

end ParentsFirst

/-- **What an act does to the order**: nothing, or a surface arrives, or one leaves with everything below
it. -/
inductive Reshapes : Lineage → Lineage → Prop
  | rests (lineage : Lineage) : Reshapes lineage lineage
  | arrives {lineage : Lineage} {id : SurfaceId} {parent : Option SurfaceId}
      (new : id ∉ members lineage) (known : ∀ other, parent = some other → other ∈ members lineage) :
      Reshapes lineage (lineage ++ [(id, parent)])
  | leaves {lineage : Lineage} (gone : List SurfaceId)
      (closed : ∀ child parent, Child lineage child parent → child ∉ gone → parent ∉ gone) :
      Reshapes lineage (lineage.filter fun entry => entry.1 ∉ gone)

theorem Reshapes.parentsFirst {before after : Lineage} (reshapes : Reshapes before after)
    (sorted : ParentsFirst before) : ParentsFirst after := by
  cases reshapes with
  | rests => exact sorted
  | arrives new known => exact sorted.snoc new known
  | leaves gone closed => exact sorted.filter (· ∉ gone) closed

end Order

end Lineage

namespace Shell

open Lineage

/-- The surfaces in the order in which they arrived, each with its parent. -/
def lineage (shell : Shell) : Lineage :=
  shell.surfaces.entries.map fun entry => (entry.1, entry.2.role.parent?)

section Lineages

variable {shell before after : Shell} {id root child parent : SurfaceId} {surface old : Surface}

theorem members_lineage (shell : Shell) : members shell.lineage = shell.surfaces.keys := by
  rw [members, lineage, List.map_map]
  rfl

theorem mem_lineage_iff : id ∈ members shell.lineage ↔ (shell.surfaces.get? id).isSome := by
  rw [members_lineage, Table.get?_isSome_iff]

theorem not_mem_lineage (new : shell.surfaces.get? id = none) : id ∉ members shell.lineage := by
  rw [members_lineage]
  exact Table.get?_eq_none_iff.mp new

theorem child_lineage : Lineage.Child shell.lineage child parent ↔ shell.Child child parent := by
  simp only [Lineage.Child, lineage, List.mem_map, Prod.mk.injEq]
  constructor
  · rintro ⟨entry, member, rfl, hangs⟩
    exact ⟨entry.2, Table.get?_eq_some_iff.mpr member, hangs⟩
  · rintro ⟨surface, found, hangs⟩
    exact ⟨(child, surface), Table.get?_eq_some_iff.mp found, rfl, hangs⟩

theorem below_lineage : Lineage.Below shell.lineage child parent ↔ shell.Below child parent := by
  have same : Lineage.Child shell.lineage = shell.Child :=
    funext fun _ => funext fun _ => propext child_lineage
  rw [Lineage.Below, same, Below]

theorem lineage_of_surfaces (same : after.surfaces = before.surfaces) :
    after.lineage = before.lineage := by
  rw [lineage, same, lineage]

/-- A surface that is stored keeps its parent. -/
theorem lineage_stored (present : before.surfaces.get? id = some old)
    (surfaces : after.surfaces = before.surfaces.insert id surface)
    (same : surface.role.bare = old.role.bare) : after.lineage = before.lineage := by
  rw [lineage, surfaces, lineage]
  refine Table.map_entries_insert present (fun surface => surface.role.parent?) ?_
  rw [← Role.parent?_bare, same, Role.parent?_bare]

theorem lineage_arrived (new : before.surfaces.get? id = none)
    (surfaces : after.surfaces = before.surfaces.insert id surface) :
    after.lineage = before.lineage ++ [(id, surface.role.parent?)] := by
  rw [lineage, surfaces, Table.entries_insert_of_not_mem (Table.get?_eq_none_iff.mp new),
    List.map_append, lineage]
  rfl

theorem configure_lineage (present : shell.surfaces.get? id = some old)
    (same : surface.role.bare = old.role.bare) (force : Bool) :
    (shell.configure id surface force).1.lineage = shell.lineage := by
  rcases configure_cases shell id surface force with ⟨-, stored⟩ | ⟨_, _, _, due, stored⟩
  · rw [stored]
    exact lineage_stored present rfl same
  · obtain ⟨-, -, rfl, -⟩ := Surface.schedule_some due
    rw [stored]
    exact lineage_stored present rfl same

theorem followed_lineage (present : shell.surfaces.get? id = some old)
    (same : surface.role.bare = old.role.bare) (effect : CommitEffect) :
    (shell.followed id surface effect).lineage = shell.lineage := by
  cases effect with
  | settled => exact lineage_stored present rfl same
  | needsConfigure => exact configure_lineage present same true
  | mapped | unmapped =>
    exact (lineage_of_surfaces (emit_surfaces _ _ _)).trans (lineage_stored present rfl same)

theorem land_lineage (shell : Shell) (view : ViewId) (released : Option Point) :
    (shell.land view released).lineage = shell.lineage :=
  lineage_of_surfaces (surfaces_of_clientSide (land_clientSide shell view released))

theorem call_lineage (shell : Shell) (view : ViewId) (call : WindowCall) :
    (shell.call view call).lineage = shell.lineage := by
  have carried := call_carried shell view call
  generalize shell.call view call = after at carried
  cases carried with
  | forget => exact lineage_of_surfaces (surfaces_of_clientSide (forgetView_clientSide _ _))
  | miss => rfl
  | close => rfl
  | propose window =>
    exact configure_lineage (window?_eq_some.mp window).2.1 (Role.bare_mapToplevel _ _) false
  | moveResize position size window =>
    rw [moveResize_eq, land_lineage]
    exact configure_lineage (window?_eq_some.mp window).2.1 (Role.bare_mapToplevel _ _) false

end Lineages

/-! ### Subtrees -/

/-- A surface and everything below it, in the order in which they are destroyed. -/
def subtree (shell : Shell) (root : SurfaceId) : List SurfaceId := shell.walk shell.surfaces.size root

section Subtrees

variable {shell : Shell} {child parent root id : SurfaceId}

/-- What something hangs on is there. -/
theorem Child.parent_present (sorted : ParentsFirst shell.lineage) (hangs : shell.Child child parent) :
    ∃ surface, shell.surfaces.get? parent = some surface := by
  have member := sorted.parent_mem (child_lineage.mpr hangs)
  exact Option.isSome_iff_exists.mp (mem_lineage_iff.mp member)

theorem Child.acyclic (sorted : ParentsFirst shell.lineage) (id : SurfaceId) :
    ¬ Relation.TransGen shell.Child id id := fun around =>
  sorted.acyclic id (Relation.TransGen.mono (fun _ _ => child_lineage.mpr) _ _ around)

theorem shallow (sorted : ParentsFirst shell.lineage) (there : (shell.surfaces.get? root).isSome) :
    Shallow shell.Child shell.surfaces.size root := by
  have chains := (sorted.shallow (mem_lineage_iff.mpr there)).thin fun _ _ => child_lineage.mpr
  rwa [lineage, List.length_map] at chains

/-- A root that is not there is alone. -/
theorem walk_of_absent (sorted : ParentsFirst shell.lineage) (absent : shell.surfaces.get? root = none)
    (depth : Nat) : shell.walk depth root = [root] := by
  have none : shell.children root = [] := List.eq_nil_iff_forall_not_mem.mpr fun child member => by
    obtain ⟨surface, found⟩ := (mem_children_iff.mp member).parent_present sorted
    rw [absent] at found
    cases found
  cases depth with
  | zero => rfl
  | succ depth => rw [walk, none, List.flatMap_nil, List.nil_append]

/-- **A subtree is what is below its root.** -/
theorem mem_subtree_iff (sorted : ParentsFirst shell.lineage) :
    id ∈ shell.subtree root ↔ shell.Below id root := by
  cases present : shell.surfaces.get? root with
  | some surface => exact mem_walk_iff (shallow sorted (by rw [present, Option.isSome_some]))
  | none =>
    rw [subtree, walk_of_absent sorted present, List.mem_singleton, below_iff]
    refine ⟨.inl, fun below => below.resolve_right ?_⟩
    rintro ⟨child, hangs, -⟩
    obtain ⟨surface, found⟩ := hangs.parent_present sorted
    rw [present] at found
    cases found

theorem nodup_subtree (sorted : ParentsFirst shell.lineage) (root : SurfaceId) :
    (shell.subtree root).Nodup := by
  cases present : shell.surfaces.get? root with
  | some surface => exact nodup_walk (shallow sorted (by rw [present, Option.isSome_some]))
  | none =>
    rw [subtree, walk_of_absent sorted present]
    exact List.nodup_singleton root

/-- A root is removed last. -/
theorem subtree_ends (shell : Shell) (root : SurfaceId) :
    ∃ front, shell.subtree root = front ++ [root] := shell.walk_ends _ root

/-- **Destroying a surface that is there ends, and without a fault**, and it does not matter how deep it is
allowed to go, as long as that is enough for all surfaces: its subtree is removed. -/
theorem runOn_destroy (sorted : ParentsFirst shell.lineage) (present : (shell.surfaces.get? root).isSome)
    {depth : Nat} (deep : shell.surfaces.size ≤ depth) :
    (ShellM.destroy depth root).runOn shell =
      (.ok (), (shell.subtree root).foldl removeSurface shell) := by
  have chains := shallow sorted present
  rw [runOn_destroy_of_shallow (chains.mono deep) present, walk_of_le chains deep, subtree]

theorem destroy_of_present {surface : Surface} (sorted : ParentsFirst shell.lineage)
    (present : shell.surfaces.get? root = some surface) :
    shell.destroy root = ((shell.subtree root).foldl removeSurface shell).accept :=
  reply_of_ok (runOn_destroy sorted (by rw [present, Option.isSome_some]) (Nat.le_refl _))

theorem destroy_of_absent (absent : shell.surfaces.get? root = none) :
    shell.destroy root = shell.reject (.unknownSurface root) :=
  reply_of_error (ShellM.runOn_destroy_of_absent absent _)

end Subtrees

/-! ### Acts -/

section Acts

variable {shell : Shell}

/-- A popup is accepted only on a surface that is there. -/
theorem newPopup_known {id parent : SurfaceId} {geometry : Rectangle}
    (accepted : (shell.newPopup id parent geometry).fault = none) :
    parent ∈ shell.surfaces.keys := by
  rw [newPopup_eq] at accepted
  split at accepted
  · cases accepted
  · next known =>
    rw [not_or, Bool.not_eq_true', Bool.not_eq_false] at known
    exact Table.get?_isSome_iff.mp known.2

theorem newToplevel_reshapes (roled : shell.Roled) (id : SurfaceId) :
    Reshapes shell.lineage (shell.newToplevel id).shell.lineage := by
  rcases newToplevel_cases roled id with ⟨fault, refused⟩ | ⟨new, taken⟩
  · rw [refused]
    exact .rests _
  · have side : (shell.newToplevel id).shell.surfaces =
        shell.surfaces.insert id { role := .toplevel {} } := by
      rw [taken, accept, surfaces_of_clientSide (createView_clientSide _ _), ping_surfaces]
      rfl
    rw [lineage_arrived new side]
    exact .arrives (not_mem_lineage new) fun other same => by cases same

theorem newPopup_reshapes (roled : shell.Roled) (id parent : SurfaceId) (geometry : Rectangle) :
    Reshapes shell.lineage (shell.newPopup id parent geometry).shell.lineage := by
  rcases newPopup_cases roled id parent geometry with ⟨fault, refused⟩ | ⟨new, taken⟩
  · rw [refused]
    exact .rests _
  · have known := newPopup_known (congrArg Reply.fault taken)
    have side : (shell.newPopup id parent geometry).shell.surfaces =
        shell.surfaces.insert id { role := .popup parent geometry } := by
      rw [taken, accept, emit_surfaces]
      rfl
    rw [lineage_arrived new side]
    refine .arrives (not_mem_lineage new) fun other same => ?_
    obtain rfl := Option.some.inj same
    rwa [members_lineage]

theorem destroy_reshapes (sorted : ParentsFirst shell.lineage) (root : SurfaceId) :
    Reshapes shell.lineage (shell.destroy root).shell.lineage := by
  cases present : shell.surfaces.get? root with
  | none =>
    rw [destroy_of_absent present]
    exact .rests _
  | some surface =>
    have left : (shell.destroy root).shell.lineage =
        shell.lineage.filter fun entry => entry.1 ∉ shell.subtree root := by
      rw [destroy_of_present sorted present, accept, lineage, removeAll_entries, lineage, List.filter_map]
      rfl
    rw [left]
    refine .leaves (shell.subtree root) fun child parent hangs stays gone => stays ?_
    exact (mem_subtree_iff sorted).mpr (.head (child_lineage.mp hangs) ((mem_subtree_iff sorted).mp gone))

/-- Where a surface keeps what it hangs on, the order of surfaces stays. -/
theorem changeSurface_lineage (shell : Shell) (id : SurfaceId) {act : SurfaceM Unit} (careful : act.Careful)
    (keeps : ∀ before after : Surface, before.obey act = .ok after →
      after.role.bare = before.role.bare) :
    (shell.changeSurface id act).shell.lineage = shell.lineage := by
  rcases changeSurface_cases shell id careful with
    ⟨fault, refused⟩ | ⟨before, after, found, done, taken⟩
  · rw [refused, reject]
  · rw [taken, accept]
    exact lineage_stored found rfl (keeps before after done)

theorem forward_lineage (shell : Shell) (id : SurfaceId) (signal : Signal) :
    (shell.forward id signal).shell.lineage = shell.lineage := by
  rcases forward_cases shell id signal with ⟨fault, refused⟩ | taken
  · rw [refused, reject]
  · rw [taken, accept]
    exact lineage_of_surfaces (emit_surfaces _ _ _)

theorem commit_lineage (shell : Shell) (id : SurfaceId) (commit : Commit) :
    (shell.commit id commit).shell.lineage = shell.lineage := by
  rcases commit_cases shell id commit with
    ⟨fault, refused⟩ | ⟨before, after, effect, found, done, taken⟩
  · rw [refused, reject]
  · rw [taken, accept, lineage_of_surfaces (emit_surfaces _ _ _)]
    exact followed_lineage found (Surface.bare_commit done) effect

/-- **Every act reshapes the order of surfaces.** -/
theorem perform_reshapes (roled : shell.Roled) (sorted : ParentsFirst shell.lineage) (act : Act) :
    Reshapes shell.lineage (shell.perform act).shell.lineage := by
  have alike : (shell.perform act).shell.lineage = shell.lineage →
      Reshapes shell.lineage (shell.perform act).shell.lineage := fun same => same ▸ .rests _
  cases act with
  | call view call => exact alike (call_lineage shell view call)
  | request request =>
    cases request with
    | newToplevel id => exact newToplevel_reshapes roled id
    | newPopup id parent geometry => exact newPopup_reshapes roled id parent geometry
    | setMinSize | setMaxSize =>
      exact alike (changeSurface_lineage shell _ (by simp) fun _ _ => Surface.bare_changeToplevel)
    | ack id serial =>
      exact alike (changeSurface_lineage shell id (by simp) fun _ _ done =>
        congrArg Role.bare (Surface.role_ack done))
    | commit id commit => exact alike (commit_lineage shell id commit)
    | move | resize | maximize | fullscreen => exact alike (forward_lineage shell _ _)
    | destroy root => exact destroy_reshapes sorted root

end Acts

/-- **Parents arrived before their children**, however long the run. -/
theorem Reached.parentsFirst {count : Nat} {shell : Shell} (reached : Reached count shell) :
    ParentsFirst shell.lineage := by
  induction reached with
  | fresh => exact .nil
  | act act reached ih => exact (perform_reshapes reached.roled ih act).parentsFirst ih

end Shell

end WindowShell
