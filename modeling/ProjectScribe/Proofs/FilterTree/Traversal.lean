import Mathlib.Data.List.Flatten
import Mathlib.Data.List.Induction
import Mathlib.Order.Bounds.Defs
import ProjectScribe.Proofs.FilterTree.Keys

/-!
# Ways through a tree of filters

A walk keeps a pile of the places that are still to be visited. The place on top is visited, and the
places below it take its stead, the first of them on top; the walk ends when the pile is empty. A
climb goes from a place to the one above it until it comes to the root. Both are described here step
by step, without a bound on the steps, so that to have such a walk or climb is to have one that ends.

The order of the walk is told by what stands in it: the places below a place lie together behind
it, and siblings come in the order in which they were added. An index finds the last of the places
that have a path.
-/
namespace ProjectScribe.FilterTree

open scoped List

/-- A walk that starts with a pile of places, and the order in which it visits what it meets. -/
inductive Visits (tree : FilterTree) : List Nat → List Nat → Prop where
  | done : Visits tree [] []
  | next {place : Nat} {pile order : List Nat}
      (rest : Visits tree (tree.childrenOf place ++ pile) order) :
      Visits tree (place :: pile) (place :: order)

/-- A climb from a place to the root, and the names on the way. -/
inductive Climbs (tree : FilterTree) : Nat → List String → Prop where
  | top : Climbs tree root []
  | further {place parent : Nat} {node : FilterNode} {names : List String}
      (below : place ≠ root) (stands : tree.node? place = some node)
      (above : node.parent = some parent) (rest : Climbs tree parent names) :
      Climbs tree place (node.name :: names)

section Walks

variable {tree : FilterTree}

/-- There is one way only to walk. -/
theorem Visits.unique {pile order other : List Nat} (visits : Visits tree pile order)
    (again : Visits tree pile other) : order = other := by
  induction visits generalizing other with
  | done =>
    cases again
    rfl
  | next rest inductionHypothesis =>
    cases again with
    | next restAgain => rw [inductionHypothesis restAgain]

variable (shaped : tree.Shaped)

include shaped

/-- A walk visits what the descent from the place on top meets, and goes on with the pile. -/
theorem Shaped.visits_downwards (steps place : Nat) (enough : tree.size ≤ place + steps)
    (inside : place < tree.size) {pile order : List Nat} (rest : Visits tree pile order) :
    Visits tree (place :: pile) (tree.downwards steps place ++ order) := by
  induction steps generalizing place pile order with
  | zero => omega
  | succ steps inductionHypothesis =>
    rw [downwards, List.cons_append]
    apply Visits.next
    have later : ∀ child ∈ tree.childrenOf place, place < child ∧ child < tree.size :=
      fun child listed => shaped.lt_of_parentOf ((shaped.mem_childrenOf place child).mp listed).1
    generalize tree.childrenOf place = children at later
    -- The places below come off the pile one after the other.
    induction children with
    | nil => exact rest
    | cons child others goOn =>
      obtain ⟨behind, placed⟩ := later child List.mem_cons_self
      rw [List.cons_append, List.flatMap_cons, List.append_assoc]
      refine inductionHypothesis child (by omega) placed (goOn fun other listed => ?_)
      exact later other (List.mem_cons_of_mem child listed)

/-- The walk through a tree ends, and its order is that of the program. -/
theorem Shaped.visits_walk : Visits tree (tree.childrenOf root) tree.walk := by
  have visits := shaped.visits_downwards tree.size root (by omega) shaped.rooted Visits.done
  rw [List.append_nil, ← shaped.root_cons_walk] at visits
  cases visits with
  | next rest => rwa [List.append_nil] at rest

/-- The climb from a place ends, and its names are those above the place. -/
theorem Shaped.climbs (place : Nat) (inside : place < tree.size) :
    Climbs tree place (tree.namesAbove place) := by
  induction place using Nat.strongRecOn with
  | ind place inductionHypothesis =>
    rcases shaped.root_or_below inside with rfl | ⟨parent, node, earlier, above, stands⟩
    · exact .top
    · have notRoot : place ≠ root := Nat.ne_of_gt (Nat.lt_of_le_of_lt (Nat.zero_le parent) earlier)
      have named : node.parent = some parent := by simpa [parentOf, stands] using above
      have rest := inductionHypothesis parent earlier (by omega)
      rw [namesAbove, shaped.ancestry_of_parentOf above, stands]
      exact .further notRoot stands named rest

end Walks

section Order

variable {tree : FilterTree} (shaped : tree.Shaped)

include shaped

/-- What belongs to a place other than the root stands together in the walk. -/
theorem Shaped.downwards_infix (place : Nat) (inside : place < tree.size) (below : place ≠ root) :
    tree.downwards tree.size place <:+: tree.walk := by
  induction place using Nat.strongRecOn with
  | ind place inductionHypothesis =>
    obtain ⟨parent, earlier, above⟩ := shaped.above place inside below
    have listed : place ∈ tree.childrenOf parent :=
      (shaped.mem_childrenOf parent place).mpr ⟨above, by omega⟩
    have among : tree.downwards tree.size place <:+:
        (tree.childrenOf parent).flatMap (tree.downwards tree.size) :=
      List.infix_flatMap_of_mem listed _
    by_cases top : parent = root
    · rw [top] at among
      exact among
    · have around := inductionHypothesis parent earlier (by omega) top
      rw [shaped.downwards_size parent (by omega), shaped.namedBelow_eq parent (by omega)] at around
      exact (among.trans (List.suffix_cons parent _).isInfix).trans around

/-- Siblings stand in the walk in the order in which they were added. -/
theorem Shaped.childrenOf_sublist (place : Nat) (inside : place < tree.size) :
    tree.childrenOf place <+ tree.walk := by
  have heads : tree.childrenOf place <+
      (tree.childrenOf place).flatMap (tree.downwards tree.size) := by
    conv => lhs; rw [← List.flatMap_singleton' (tree.childrenOf place)]
    refine List.Sublist.flatMap_right _ fun child listed => ?_
    have placed := (shaped.lt_of_parentOf ((shaped.mem_childrenOf place child).mp listed).1).2
    rw [shaped.downwards_size child placed]
    exact List.singleton_sublist.mpr List.mem_cons_self
  by_cases top : place = root
  · rw [top] at heads
    exact top ▸ heads
  · have part := shaped.downwards_infix place inside top
    rw [shaped.downwards_size place inside, shaped.namedBelow_eq place inside] at part
    exact heads.trans ((List.sublist_cons_self place _).trans part.sublist)

/-- A place other than the root stands in the walk behind the place above it. -/
theorem Shaped.parent_sublist {place parent : Nat} (above : tree.parentOf place = some parent)
    (below : parent ≠ root) : [parent, place] <+ tree.walk := by
  have behind := shaped.lt_of_parentOf above
  have inside : parent < tree.size := by omega
  have part := shaped.downwards_infix parent inside below
  have listed : place ∈ tree.childrenOf parent :=
    (shaped.mem_childrenOf parent place).mpr ⟨above, inside⟩
  rw [shaped.downwards_size parent inside, shaped.namedBelow_eq parent inside] at part
  refine List.Sublist.trans (List.Sublist.cons_cons parent (List.singleton_sublist.mpr ?_))
    part.sublist
  refine List.mem_flatMap.mpr ⟨place, listed, ?_⟩
  rw [shaped.downwards_size place behind.2]
  exact List.mem_cons_self

/-- The walk visits all places but the root, each once. -/
theorem Shaped.walk_perm : tree.walk.Perm (List.range tree.size).tail := by
  have whole := shaped.depthFirst_walk.places
  obtain ⟨more, size⟩ : ∃ more, tree.size = more + 1 :=
    Nat.exists_eq_succ_of_ne_zero (Nat.ne_of_gt shaped.rooted)
  rw [size, List.range_succ_eq_map] at whole ⊢
  exact (List.perm_cons root).mp whole

end Order

section Paths

variable {tree : FilterTree} (shaped : tree.Shaped)

include shaped

/-- The path of a filter is its name behind the path of the filter above it. -/
theorem Shaped.pathOf_of_parentOf {place parent : Nat} {node : FilterNode}
    (above : tree.parentOf place = some parent) (stands : tree.node? place = some node) :
    tree.pathOf place =
      if parent = root then node.name else tree.pathOf parent ++ "\\" ++ node.name := by
  have behind := shaped.lt_of_parentOf above
  rw [pathOf, shaped.ancestry_of_parentOf above, stands]
  split
  · next top =>
    subst top
    change "\\".intercalate [node.name] = node.name
    exact String.intercalate_singleton
  · next below =>
    obtain ⟨further, earlier, aboveParent⟩ := shaped.above parent (by omega) below
    obtain ⟨other, standsParent⟩ := tree.exists_node? parent (by omega)
    have filled : (tree.ancestry parent).reverse.map (·.name) ≠ [] := by
      rw [shaped.ancestry_of_parentOf aboveParent, standsParent]
      simp
    simp only [Option.toList_some, List.singleton_append, List.reverse_cons, List.map_append,
      List.map_cons, List.map_nil]
    rw [String.intercalate_append_of_ne_nil filled (List.cons_ne_nil _ _),
      String.intercalate_singleton, pathOf]

end Paths

section Index

/-- Searched from its end, an increasing list gives the greatest of the numbers that pass. -/
theorem find?_reverse_eq_some_iff {numbers : List Nat} (increasing : numbers.Pairwise (· < ·))
    (passes : Nat → Bool) (number : Nat) :
    numbers.reverse.find? passes = some number ↔
      IsGreatest {other | other ∈ numbers ∧ passes other = true} number := by
  induction numbers using List.reverseRecOn with
  | nil =>
    constructor
    · intro found
      cases found
    · rintro ⟨⟨listed, -⟩, -⟩
      cases listed
  | append_singleton numbers last inductionHypothesis =>
    obtain ⟨before, -, behind⟩ := List.pairwise_append.mp increasing
    have behind : ∀ other ∈ numbers, other < last :=
      fun other listed => behind other listed last List.mem_cons_self
    rw [List.reverse_append, List.reverse_singleton, List.singleton_append, List.find?_cons]
    cases passed : passes last with
    | true =>
      constructor
      · intro same
        obtain rfl := Option.some.inj same
        refine ⟨⟨List.mem_append_right _ List.mem_cons_self, passed⟩, ?_⟩
        rintro other ⟨listed, -⟩
        rcases List.mem_append.mp listed with earlier | same
        · exact Nat.le_of_lt (behind other earlier)
        · exact Nat.le_of_eq (List.mem_singleton.mp same)
      · rintro ⟨⟨listed, -⟩, greatest⟩
        have most : last ≤ number :=
          greatest ⟨List.mem_append_right _ List.mem_cons_self, passed⟩
        rcases List.mem_append.mp listed with earlier | same
        · exact absurd (behind number earlier) (Nat.not_lt_of_le most)
        · rw [List.mem_singleton.mp same]
    | false =>
      have same : {other | other ∈ numbers ++ [last] ∧ passes other = true} =
          {other | other ∈ numbers ∧ passes other = true} := by
        ext other
        constructor
        · rintro ⟨listed, passedOther⟩
          rcases List.mem_append.mp listed with earlier | same
          · exact ⟨earlier, passedOther⟩
          · rw [List.mem_singleton.mp same, passed] at passedOther
            cases passedOther
        · rintro ⟨earlier, passedOther⟩
          exact ⟨List.mem_append_left _ earlier, passedOther⟩
      rw [same]
      exact inductionHypothesis before

variable (tree : FilterTree) (path : String)

/-- The places that an index lists. -/
theorem mem_tail_range (place : Nat) :
    place ∈ (List.range tree.size).tail ↔ place ≠ root ∧ place < tree.size := by
  rw [List.tail_range, List.mem_range'_1]
  simp only [root]
  omega

/-- An index finds the last of the places that have a path. -/
theorem find?_index_eq_some_iff (place : Nat) :
    tree.index.find? path = some place ↔
      IsGreatest {other | (other ≠ root ∧ other < tree.size) ∧ tree.pathOf other = path} place := by
  have increasing : (List.range tree.size).tail.Pairwise (· < ·) :=
    List.pairwise_lt_range.tail
  have listed := find?_reverse_eq_some_iff increasing (tree.pathOf · = path) place
  rw [PathIndex.find?, index, ← List.map_reverse, List.find?_map, Option.map_map]
  simp only [mem_tail_range, decide_eq_true_eq] at listed
  rw [← listed]
  change Option.map id _ = some place ↔ _
  rw [Option.map_id]
  rfl

/-- An index finds nothing just if no place has the path. -/
theorem find?_index_eq_none_iff :
    tree.index.find? path = none ↔
      ∀ place, place ≠ root → place < tree.size → tree.pathOf place ≠ path := by
  rw [PathIndex.find?, index, ← List.map_reverse, List.find?_map, Option.map_map,
    Option.map_eq_none_iff, List.find?_eq_none]
  constructor
  · intro missing place below inside
    have listed := List.mem_reverse.mpr ((tree.mem_tail_range place).mpr ⟨below, inside⟩)
    simpa using missing place listed
  · intro missing place listed
    obtain ⟨below, inside⟩ := (tree.mem_tail_range place).mp (List.mem_reverse.mp listed)
    simpa using missing place below inside

end Index

end ProjectScribe.FilterTree
