/-
**How a surface is destroyed.**

The popups of a surface go first, by number, each in the same way, and the surface goes last. While that
is under way the shell changes: surfaces are gone, and views, popup records and listeners with them. But
as long as nothing hangs on itself, what hangs on a surface that is still there is not touched by what went
before. So which surfaces go, and in which order, is settled from the start, and no fault comes up on the
way:

* `Shallow.acyclic`: where chains are bounded, nothing hangs on itself;
* `mem_walk_iff`, `nodup_walk`: the walk from a root meets what is below it, each surface once;
* `runOn_destroy_of_shallow`: destroying a root removes the surfaces one after another as the walk meets
  them, and ends without a fault.
-/

import Mathlib.Data.List.Nodup
import Mathlib.Logic.Relation
import WindowShell.Proofs.ClientSide
import WindowShell.Proofs.Handling

namespace WindowShell

/-- Chains that end in a surface are no longer than a bound. -/
inductive Shallow (hangs : SurfaceId → SurfaceId → Prop) : Nat → SurfaceId → Prop
  | intro {depth : Nat} {id : SurfaceId} (children : ∀ child, hangs child id → Shallow hangs depth child) :
      Shallow hangs (depth + 1) id

namespace Shallow

variable {hangs fewer : SurfaceId → SurfaceId → Prop} {depth bound : Nat} {id : SurfaceId}

theorem mono (shallow : Shallow hangs depth id) (deeper : depth ≤ bound) : Shallow hangs bound id := by
  induction shallow generalizing bound with
  | intro children ih =>
    obtain ⟨bound, rfl⟩ := Nat.exists_eq_add_of_lt deeper
    exact .intro fun child hung => ih child hung (by omega)

/-- Chains get no longer where nothing new hangs on anything. -/
theorem thin (shallow : Shallow hangs depth id)
    (less : ∀ child parent, fewer child parent → hangs child parent) : Shallow fewer depth id := by
  induction shallow with
  | intro children ih => exact .intro fun child hung => ih child (less child _ hung)

/-- **Nothing hangs on itself** where chains are bounded. -/
theorem acyclic (shallow : Shallow hangs depth id) : ¬ Relation.TransGen hangs id id := by
  induction shallow with
  | intro children ih =>
    intro around
    obtain ⟨last, leads, hung⟩ := Relation.TransGen.tail'_iff.mp around
    exact ih last hung (Relation.TransGen.head'_iff.mpr ⟨_, hung, leads⟩)

end Shallow

namespace Shell

/-- One surface hangs on another: it is a popup there. -/
def Child (shell : Shell) (child parent : SurfaceId) : Prop :=
  ∃ surface, shell.surfaces.get? child = some surface ∧ surface.role.parent? = some parent

/-- A chain of parents leads from one surface to another, or they are the same. -/
def Below (shell : Shell) : SurfaceId → SurfaceId → Prop := Relation.ReflTransGen shell.Child

/-- The surfaces down from a root to a depth, in the order in which they are destroyed. -/
def walk (shell : Shell) : Nat → SurfaceId → List SurfaceId
  | 0, root => [root]
  | depth + 1, root => (shell.children root).flatMap (shell.walk depth) ++ [root]

variable {shell : Shell} {depth bound : Nat} {id root child parent other : SurfaceId}

/-- A surface hangs on one surface only. -/
theorem Child.unique (first : shell.Child child parent) (second : shell.Child child other) :
    parent = other := by
  obtain ⟨surface, found, hangs⟩ := first
  obtain ⟨_, there, also⟩ := second
  obtain rfl := Option.some.inj (found.symm.trans there)
  exact Option.some.inj (hangs.symm.trans also)

/-- What hangs on a surface that is there is there as well. -/
theorem Below.present (below : shell.Below child root) (there : (shell.surfaces.get? root).isSome) :
    (shell.surfaces.get? child).isSome := by
  rcases Relation.ReflTransGen.cases_head below with rfl | ⟨above, ⟨surface, found, -⟩, -⟩
  · exact there
  · rw [found, Option.isSome_some]

/-- What is below a surface is the surface itself or below one of its popups. -/
theorem below_iff : shell.Below child root ↔
    child = root ∨ ∃ popup, shell.Child popup root ∧ shell.Below child popup := by
  rw [Below, Relation.ReflTransGen.cases_tail_iff]
  exact or_congr eq_comm (exists_congr fun _ => and_comm)

/-- Of two surfaces above a third, one is above the other. -/
theorem Below.total {first second : SurfaceId} (one : shell.Below id first)
    (two : shell.Below id second) : shell.Below first second ∨ shell.Below second first :=
  Relation.ReflTransGen.total_of_right_unique (fun _ _ _ => Child.unique) one two

/-! ### The popups of a surface -/

theorem mem_children_iff : child ∈ shell.children parent ↔ shell.Child child parent := by
  rw [children, (SurfaceId.sort_perm _).mem_iff]
  simp only [List.mem_map, List.mem_filter, decide_eq_true_eq]
  constructor
  · rintro ⟨entry, ⟨member, hangs⟩, rfl⟩
    exact ⟨entry.2, Table.get?_eq_some_iff.mpr member, hangs⟩
  · rintro ⟨surface, found, hangs⟩
    exact ⟨(child, surface), ⟨Table.get?_eq_some_iff.mp found, hangs⟩, rfl⟩

theorem nodup_children (shell : Shell) (parent : SurfaceId) : (shell.children parent).Nodup := by
  rw [children, (SurfaceId.sort_perm _).nodup_iff]
  exact (List.filter_sublist.map Prod.fst).nodup shell.surfaces.distinct

/-- Where the same surfaces hang on a surface, it has the same popups. -/
theorem children_congr {twin : Shell} (same : ∀ child, shell.Child child parent ↔ twin.Child child parent) :
    shell.children parent = twin.children parent := by
  have members : (shell.children parent).Perm (twin.children parent) := by
    rw [List.perm_ext_iff_of_nodup (shell.nodup_children parent) (twin.nodup_children parent)]
    intro child
    rw [mem_children_iff, mem_children_iff, same]
  exact SurfaceId.sort_congr ((SurfaceId.sort_perm _).symm.trans (members.trans (SurfaceId.sort_perm _)))

/-- Popups of one surface have nothing below them in common. -/
theorem disjoint_siblings (acyclic : ¬ Relation.TransGen shell.Child root root)
    (one : shell.Child child root) (two : shell.Child other root) (apart : child ≠ other)
    (below : shell.Below id child) : ¬ shell.Below id other := by
  intro also
  have around : ∀ {first second}, first ≠ second → shell.Child first root → shell.Child second root →
      ¬ shell.Below first second := fun differ first second leads => by
    rcases Relation.ReflTransGen.cases_head leads with same | ⟨above, hung, rest⟩
    · exact differ same
    · obtain rfl := hung.unique first
      exact acyclic (Relation.TransGen.tail'_iff.mpr ⟨_, rest, second⟩)
  rcases below.total also with leads | leads
  · exact around apart one two leads
  · exact around apart.symm two one leads

/-! ### The walk from a root -/

/-- A root is met last. -/
theorem walk_ends (shell : Shell) (depth : Nat) (root : SurfaceId) :
    ∃ front, shell.walk depth root = front ++ [root] := by
  cases depth with
  | zero => exact ⟨[], rfl⟩
  | succ depth => exact ⟨_, rfl⟩

/-- The walk goes no further where it is allowed to go deeper. -/
theorem walk_of_le (shallow : Shallow shell.Child depth root) (deeper : depth ≤ bound) :
    shell.walk bound root = shell.walk depth root := by
  induction shallow generalizing bound with
  | intro children ih =>
    obtain ⟨bound, rfl⟩ := Nat.exists_eq_add_of_lt deeper
    rw [walk, walk]
    congr 1
    exact List.flatMap_congr fun child member => ih child (mem_children_iff.mp member) (by omega)

/-- **The walk meets what is below the root.** -/
theorem mem_walk_iff (shallow : Shallow shell.Child depth root) :
    id ∈ shell.walk depth root ↔ shell.Below id root := by
  induction shallow with
  | @intro depth root children ih =>
    rw [walk, List.mem_append, List.mem_singleton, List.mem_flatMap, below_iff, or_comm]
    refine or_congr_right (exists_congr fun child => ?_)
    rw [mem_children_iff]
    exact and_congr_right fun hangs => ih child hangs

/-- **The walk meets nothing twice.** -/
theorem nodup_walk (shallow : Shallow shell.Child depth root) : (shell.walk depth root).Nodup := by
  have acyclic := shallow.acyclic
  induction shallow with
  | @intro depth root children ih =>
    have popup : ∀ child ∈ shell.children root, Shallow shell.Child depth child := fun child member =>
      children child (mem_children_iff.mp member)
    rw [walk, List.nodup_append, List.nodup_flatMap]
    refine ⟨⟨fun child member => ?_, ?_⟩, List.nodup_singleton root, fun id inside last same => ?_⟩
    · exact ih child (mem_children_iff.mp member) (popup child member).acyclic
    · refine (shell.nodup_children root).imp_of_mem fun {first second} one two apart id below also => ?_
      exact disjoint_siblings acyclic (mem_children_iff.mp one) (mem_children_iff.mp two) apart
        ((mem_walk_iff (popup first one)).mp below) ((mem_walk_iff (popup second two)).mp also)
    · obtain rfl := List.mem_singleton.mp same
      intro equal
      subst equal
      obtain ⟨child, member, below⟩ := List.mem_flatMap.mp inside
      exact acyclic (Relation.TransGen.tail'_iff.mpr
        ⟨child, (mem_walk_iff (popup child member)).mp below, mem_children_iff.mp member⟩)

/-! ### While surfaces go -/

/-- What still hangs on something when surfaces are gone. -/
theorem child_removeAll {ids : List SurfaceId} :
    (ids.foldl removeSurface shell).Child child parent ↔ child ∉ ids ∧ shell.Child child parent := by
  simp only [Child, removeAll_get?]
  by_cases gone : child ∈ ids <;> simp [gone]

/-- A surface keeps its popups if none of them goes. -/
theorem children_removeAll {ids : List SurfaceId} (kept : ∀ child, shell.Child child parent → child ∉ ids) :
    (ids.foldl removeSurface shell).children parent = shell.children parent :=
  children_congr fun child => child_removeAll.trans (and_iff_right_of_imp (kept child))

/-- The walk from a root stays what it was if nothing below the root goes. -/
theorem walk_removeAll {ids : List SurfaceId} (kept : ∀ id, shell.Below id root → id ∉ ids) :
    (ids.foldl removeSurface shell).walk depth root = shell.walk depth root := by
  induction depth generalizing root with
  | zero => rfl
  | succ depth ih =>
    rw [walk, walk, children_removeAll fun child hangs => kept child (.single hangs)]
    congr 1
    refine List.flatMap_congr fun child member => ih fun id below => ?_
    exact kept id (below.tail (mem_children_iff.mp member))

/-- **Destroying popups of one surface**, which have nothing below them in common. -/
theorem runOn_siblings
    (ih : ∀ {shell : Shell} {root : SurfaceId}, Shallow shell.Child depth root →
      (shell.surfaces.get? root).isSome →
        (ShellM.destroy depth root).runOn shell = (.ok (), (shell.walk depth root).foldl removeSurface shell))
    (siblings : List SurfaceId) (shell : Shell)
    (shallow : ∀ popup ∈ siblings, Shallow shell.Child depth popup)
    (present : ∀ popup ∈ siblings, (shell.surfaces.get? popup).isSome)
    (apart : siblings.Pairwise fun one two => ∀ id, shell.Below id one → ¬ shell.Below id two) :
    Attempt.runOn (forM siblings (ShellM.destroy depth)) shell =
      (.ok (), (siblings.flatMap (shell.walk depth)).foldl removeSurface shell) := by
  induction siblings generalizing shell with
  | nil => rfl
  | cons popup rest later =>
    obtain ⟨first, others⟩ := List.forall_mem_cons.mp shallow
    obtain ⟨here, there⟩ := List.forall_mem_cons.mp present
    obtain ⟨differ, apart⟩ := List.pairwise_cons.mp apart
    -- the first popup goes, and what is below the others is not touched
    have untouched : ∀ other ∈ rest, ∀ id, shell.Below id other → id ∉ shell.walk depth popup :=
      fun other member id below gone => differ other member id ((mem_walk_iff first).mp gone) below
    have less : ∀ child parent, ((shell.walk depth popup).foldl removeSurface shell).Child child parent →
        shell.Child child parent := fun child parent hangs => (child_removeAll.mp hangs).2
    have fewer : ∀ {id root}, ((shell.walk depth popup).foldl removeSurface shell).Below id root →
        shell.Below id root := fun below => Relation.ReflTransGen.mono less _ _ below
    have left := later ((shell.walk depth popup).foldl removeSurface shell)
      (fun other member => (others other member).thin less)
      (fun other member => by
        rw [removeAll_get?, if_neg (untouched other member other .refl)]
        exact there other member)
      (apart.imp fun differ id below also => differ id (fewer below) (fewer also))
    have walks : rest.flatMap (((shell.walk depth popup).foldl removeSurface shell).walk depth) =
        rest.flatMap (shell.walk depth) :=
      List.flatMap_congr fun other member => walk_removeAll (untouched other member)
    rw [List.forM_cons, Attempt.runOn_bind, ih first here]
    simp only [left, walks, List.flatMap_cons, List.foldl_append]

/-- **Destroying a root** removes the surfaces one after another as the walk meets them. -/
theorem runOn_destroy_of_shallow (shallow : Shallow shell.Child depth root)
    (present : (shell.surfaces.get? root).isSome) :
    (ShellM.destroy depth root).runOn shell =
      (.ok (), (shell.walk depth root).foldl removeSurface shell) := by
  induction depth generalizing shell root with
  | zero => cases shallow
  | succ depth ih =>
    have acyclic := shallow.acyclic
    obtain ⟨children⟩ := shallow
    obtain ⟨surface, found⟩ := Option.isSome_iff_exists.mp present
    have gone := runOn_siblings ih (shell.children root) shell
      (fun popup member => children popup (mem_children_iff.mp member))
      (fun popup member => Below.present (.single (mem_children_iff.mp member)) present)
      ((shell.nodup_children root).imp_of_mem fun one two apart id =>
        disjoint_siblings acyclic (mem_children_iff.mp one) (mem_children_iff.mp two) apart)
    rw [ShellM.runOn_destroy_succ found, gone, walk, List.foldl_append]
    rfl

end Shell

end WindowShell
