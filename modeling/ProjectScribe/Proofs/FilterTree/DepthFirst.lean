import Mathlib.Data.List.Perm.Basic
import Mathlib.Data.List.Nodup
import ProjectScribe.Proofs.FilterTree.Growth

/-!
# The order of a walk through a tree of filters

What it means that a list goes through a tree in depth first is said by the nodes above places
alone: every place stands in the list once, in front of what is below it, and what is below it
follows part by part, in the order in which the filters were added. The walk that the program
takes reads the lists of children instead, and counts its steps down; with the root in front it
is such a list for every tree that the operations build, so the steps never run out and no place
is left out or met twice.
-/
namespace ProjectScribe.FilterTree

/-- The places that name a place as the one above them, in the order in which they were added. -/
def namedBelow (tree : FilterTree) (place : Nat) : List Nat :=
  (List.range tree.size).filter (tree.parentOf · = some place)

/-- A list that has every place of a tree once and goes through it in depth first: what belongs
to a place is the place itself and, behind it, what belongs to the places below it in turn. -/
structure DepthFirst (tree : FilterTree) (order : List Nat) : Prop where
  places : order.Perm (List.range tree.size)
  parts : ∃ part : Nat → List Nat, order = part root ∧
    ∀ place, place < tree.size → part place = place :: (tree.namedBelow place).flatMap part

/-- A place leads down to another if the nodes above the other one come to it. -/
inductive LeadsTo (tree : FilterTree) (place : Nat) : Nat → Prop where
  | here : LeadsTo tree place place
  | further (parent child : Nat) (stands : tree.parentOf child = some parent)
      (led : LeadsTo tree place parent) : LeadsTo tree place child

/-- What is led to leads on. -/
theorem LeadsTo.trans {tree : FilterTree} {first second third : Nat}
    (upper : LeadsTo tree first second) (lower : LeadsTo tree second third) :
    LeadsTo tree first third := by
  induction lower with
  | here => exact upper
  | further parent child stands led inductionHypothesis =>
    exact .further parent child stands inductionHypothesis

namespace Shaped

variable {tree : FilterTree} (shaped : tree.Shaped)

include shaped

theorem namedBelow_eq (place : Nat) (inside : place < tree.size) :
    tree.namedBelow place = tree.childrenOf place :=
  (shaped.below place inside).symm

/-- A place leads down to later places only. -/
theorem le_of_leadsTo {place other : Nat} (led : LeadsTo tree place other) : place ≤ other := by
  induction led with
  | here => exact Nat.le_refl place
  | further parent child stands led earlier =>
    exact Nat.le_trans earlier (Nat.le_of_lt (shaped.lt_of_parentOf stands).1)

/-- Of two places that lead down to a third one, the earlier leads down to the later: the nodes
above a place form one line. -/
theorem leadsTo_of_le {first second place : Nat} (fromFirst : LeadsTo tree first place)
    (fromSecond : LeadsTo tree second place) (ordered : first ≤ second) :
    LeadsTo tree first second := by
  induction fromSecond with
  | here => exact fromFirst
  | further parent child stands led inductionHypothesis =>
    cases fromFirst with
    | here =>
      have later : second ≤ parent := shaped.le_of_leadsTo led
      have behind : parent < first := (shaped.lt_of_parentOf stands).1
      omega
    | further actual _ named earlier =>
      have same : actual = parent := Option.some.inj (named.symm.trans stands)
      exact inductionHypothesis (same ▸ earlier)

/-- The root leads down to every place. -/
theorem root_leadsTo (place : Nat) (inside : place < tree.size) : LeadsTo tree root place := by
  induction place using Nat.strongRecOn with
  | ind place inductionHypothesis =>
    by_cases isRoot : place = root
    · exact isRoot ▸ .here
    · obtain ⟨parent, earlier, stands⟩ := shaped.above place inside isRoot
      exact .further parent place stands
        (inductionHypothesis parent earlier (Nat.lt_trans earlier inside))

/-- Two places below one do not lead down to a common place. -/
theorem children_apart {place first second other : Nat}
    (firstChild : first ∈ tree.childrenOf place) (secondChild : second ∈ tree.childrenOf place)
    (ordered : first < second) (fromFirst : LeadsTo tree first other)
    (fromSecond : LeadsTo tree second other) : False := by
  have led : LeadsTo tree first second :=
    shaped.leadsTo_of_le fromFirst fromSecond (Nat.le_of_lt ordered)
  have firstStands := ((shaped.mem_childrenOf place first).mp firstChild).1
  have secondStands := ((shaped.mem_childrenOf place second).mp secondChild).1
  cases led with
  | here => exact Nat.lt_irrefl _ ordered
  | further parent _ stands earlier =>
    have same : parent = place := Option.some.inj (stands.symm.trans secondStands)
    have later : first ≤ place := same ▸ shaped.le_of_leadsTo earlier
    have behind : place < first := (shaped.lt_of_parentOf firstStands).1
    omega

/-- What a descent meets stands below its start. -/
theorem leadsTo_of_mem_downwards (steps place other : Nat)
    (met : other ∈ tree.downwards steps place) : LeadsTo tree place other := by
  induction steps generalizing place with
  | zero => simp [downwards] at met
  | succ steps inductionHypothesis =>
    simp only [downwards, List.mem_cons, List.mem_flatMap] at met
    rcases met with rfl | ⟨child, listed, met⟩
    · exact .here
    · have stands := ((shaped.mem_childrenOf place child).mp listed).1
      exact LeadsTo.trans (.further place child stands .here) (inductionHypothesis child met)

/-- A descent that has enough steps goes on below everything that it meets. -/
theorem mem_downwards_below (steps place parent child : Nat)
    (enough : tree.size ≤ place + steps) (stands : tree.parentOf child = some parent)
    (met : parent ∈ tree.downwards steps place) : child ∈ tree.downwards steps place := by
  induction steps generalizing place with
  | zero => simp [downwards] at met
  | succ steps inductionHypothesis =>
    have behind := shaped.lt_of_parentOf stands
    simp only [downwards, List.mem_cons, List.mem_flatMap] at met ⊢
    rcases met with rfl | ⟨next, listed, met⟩
    · have listed : child ∈ tree.childrenOf parent :=
        (shaped.mem_childrenOf parent child).mpr ⟨stands, Nat.lt_trans behind.1 behind.2⟩
      refine .inr ⟨child, listed, ?_⟩
      -- The child is a place of the tree, so a step is left for it.
      obtain ⟨left, rfl⟩ : ∃ left, steps = left + 1 := ⟨steps - 1, by omega⟩
      simp [downwards]
    · have later := (shaped.lt_of_parentOf ((shaped.mem_childrenOf place next).mp listed).1).1
      exact .inr ⟨next, listed, inductionHypothesis next (by omega) met⟩

/-- A descent that has enough steps meets exactly what its start leads down to. -/
theorem mem_downwards_iff (steps place other : Nat) (inside : place < tree.size)
    (enough : tree.size ≤ place + steps) :
    other ∈ tree.downwards steps place ↔ LeadsTo tree place other := by
  constructor
  · exact shaped.leadsTo_of_mem_downwards steps place other
  · intro led
    induction led with
    | here =>
      obtain ⟨left, rfl⟩ : ∃ left, steps = left + 1 := ⟨steps - 1, by omega⟩
      simp [downwards]
    | further parent child stands led met =>
      exact shaped.mem_downwards_below steps place parent child enough stands met

/-- A descent meets no place twice. -/
theorem nodup_downwards (steps place : Nat) : (tree.downwards steps place).Nodup := by
  induction steps generalizing place with
  | zero => simp [downwards]
  | succ steps inductionHypothesis =>
    rw [downwards, List.nodup_cons, List.nodup_flatMap]
    refine ⟨?_, fun child _ => inductionHypothesis child, ?_⟩
    · intro again
      obtain ⟨child, listed, met⟩ := List.mem_flatMap.mp again
      have later := (shaped.lt_of_parentOf ((shaped.mem_childrenOf place child).mp listed).1).1
      have behind := shaped.le_of_leadsTo (shaped.leadsTo_of_mem_downwards steps child place met)
      omega
    · refine List.Pairwise.imp_of_mem ?_ (shaped.childrenOf_increasing place)
      intro first second firstChild secondChild ordered
      apply List.disjoint_left.mpr
      intro other fromFirst fromSecond
      exact shaped.children_apart firstChild secondChild ordered
        (shaped.leadsTo_of_mem_downwards steps first other fromFirst)
        (shaped.leadsTo_of_mem_downwards steps second other fromSecond)

/-- More steps than enough change nothing. -/
theorem downwards_eq (steps more place : Nat) (enough : tree.size ≤ place + steps)
    (moreEnough : tree.size ≤ place + more) (inside : place < tree.size) :
    tree.downwards steps place = tree.downwards more place := by
  induction steps generalizing place more with
  | zero => omega
  | succ steps inductionHypothesis =>
    obtain ⟨left, rfl⟩ : ∃ left, more = left + 1 := ⟨more - 1, by omega⟩
    simp only [downwards]
    congr 1
    refine List.flatMap_congr fun child listed => ?_
    have behind := shaped.lt_of_parentOf ((shaped.mem_childrenOf place child).mp listed).1
    exact inductionHypothesis left child (by omega) (by omega) behind.2

/-- With all its steps, a descent is its start and the descents from the places below it. -/
theorem downwards_size (place : Nat) (inside : place < tree.size) :
    tree.downwards tree.size place =
      place :: (tree.namedBelow place).flatMap (tree.downwards tree.size) := by
  obtain ⟨left, whole⟩ : ∃ left, tree.size = left + 1 := ⟨tree.size - 1, by omega⟩
  rw [shaped.namedBelow_eq place inside]
  conv => lhs; rw [whole, downwards]
  congr 1
  refine List.flatMap_congr fun child listed => ?_
  have behind := shaped.lt_of_parentOf ((shaped.mem_childrenOf place child).mp listed).1
  exact shaped.downwards_eq left tree.size child (by omega) (by omega) behind.2

/-- The walk, with the root in front, is the descent from the root. -/
theorem root_cons_walk : root :: tree.walk = tree.downwards tree.size root := by
  rw [shaped.downwards_size root shaped.rooted, shaped.namedBelow_eq root shaped.rooted, walk]

/-- The walk, with the root in front, goes through the tree in depth first. -/
theorem depthFirst_walk : tree.DepthFirst (root :: tree.walk) where
  places := by
    rw [shaped.root_cons_walk,
      List.perm_ext_iff_of_nodup (shaped.nodup_downwards tree.size root) List.nodup_range]
    intro place
    rw [shaped.mem_downwards_iff tree.size root place shaped.rooted (by omega), List.mem_range]
    constructor
    · intro led
      cases led with
      | here => exact shaped.rooted
      | further parent _ stands _ => exact (shaped.lt_of_parentOf stands).2
    · exact shaped.root_leadsTo place
  parts := ⟨tree.downwards tree.size, shaped.root_cons_walk, shaped.downwards_size⟩

end Shaped

/-- The files of a tree, taken place by place along a list that has every place once, are the
files of the tree in some order. -/
theorem DepthFirst.files_perm {tree : FilterTree} {order : List Nat}
    (ordered : tree.DepthFirst order) : (order.flatMap tree.filesAt).Perm tree.files := by
  rw [files_eq_flatMap]
  exact ordered.places.flatMap_right _

end ProjectScribe.FilterTree
