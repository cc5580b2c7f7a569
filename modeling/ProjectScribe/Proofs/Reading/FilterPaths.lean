import Mathlib.Data.List.Find
import ProjectScribe.Proofs.FilterTree.Extension
import ProjectScribe.Reading.ElementFormat

/-!
# Filters along paths

The names on a path lead down from the root, each to the first filter of the name. Where a filter
is missing it is added, and from then on the path leads to the same place, however the tree is
extended. So is the reason found again for which a filter leaves out its files.
-/
namespace ProjectScribe.Reading.ElementFormat

open FilterTree (Extends)

/-- The place that names lead to from a place, if the tree has filters for all of them. -/
def locate (tree : FilterTree) (place : Nat) : List String → Option Nat
  | [] => some place
  | name :: rest => (childNamed tree place name).bind fun child => locate tree child rest

section Lookup

variable {old new : FilterTree}

/-- A filter that is found by its name is a place of the tree. -/
theorem lt_size_of_childNamed (shaped : old.Shaped) {place child : Nat} {name : String}
    (found : childNamed old place name = some child) : child < old.size := by
  have below := List.mem_of_find?_eq_some found
  exact (shaped.lt_of_parentOf ((shaped.mem_childrenOf place child).mp below).1).2

/-- A filter that is found by its name is found in every extension. -/
theorem childNamed_extends (shaped : old.Shaped) (grows : Extends old new) {place child : Nat}
    {name : String} (found : childNamed old place name = some child) :
    childNamed new place name = some child := by
  obtain ⟨more, children⟩ := grows.childrenOf_prefix place
  have alike : ∀ other ∈ old.childrenOf place,
      (new.node? other).any (fun node => Text.sameLetters node.name name) =
        (old.node? other).any fun node => Text.sameLetters node.name name := by
    intro other listed
    have inside := (shaped.lt_of_parentOf ((shaped.mem_childrenOf place other).mp listed).1).2
    obtain ⟨node, stands⟩ := old.exists_node? other inside
    obtain ⟨later, standsLater, extended⟩ := grows other node stands
    rw [stands, standsLater, Option.any_some, Option.any_some, extended.name]
  rw [childNamed, ← children, List.find?_append, List.find?_congr alike]
  rw [childNamed] at found
  rw [found, Option.some_or]

/-- A place that names lead to is led to in every extension. -/
theorem locate_extends (shaped : old.Shaped) (grows : Extends old new) {place target : Nat}
    {names : List String} (found : locate old place names = some target) :
    locate new place names = some target := by
  induction names generalizing place with
  | nil => exact found
  | cons name rest inductionHypothesis =>
    obtain ⟨child, first, further⟩ := Option.bind_eq_some_iff.mp found
    rw [locate, childNamed_extends shaped grows first]
    exact inductionHypothesis further

/-- Every extension has the same reason to leave out the files of a filter. -/
theorem inheritedSkipReason?_extends (shaped : old.Shaped) (grows : Extends old new)
    {place : Nat} (inside : place < old.size) :
    inheritedSkipReason? new place = inheritedSkipReason? old place := by
  have upwards := grows.upwards_eq shaped place place inside
  have viaPairs : ∀ nodes : List FilterNode,
      nodes.findSome? (fun node => filterSkipReason? node.name node.isTracked) =
        (nodes.map fun node => (node.name, node.isTracked)).findSome? fun pair =>
          filterSkipReason? pair.1 pair.2 := by
    intro nodes
    simp only [List.findSome?_map, Function.comp_def]
  rw [inheritedSkipReason?, inheritedSkipReason?, FilterTree.ancestry, FilterTree.ancestry,
    viaPairs, viaPairs, upwards]

end Lookup

/-- What it takes to go down along names in a tree: the tree is extended without files, and the
names lead to the place that is reached. -/
structure Descends (tree : FilterTree) (place : Nat) (names : List String)
    (reached : FilterTree × Nat) : Prop where
  grown : reached.1.Grown
  grows : Extends tree reached.1
  inside : reached.2 < reached.1.size
  located : locate reached.1 place names = some reached.2
  filesAt : ∀ other, reached.1.filesAt other = tree.filesAt other

/-- A filter that is added where no filter of its name is found is found from then on. -/
theorem childNamed_addChild (tree : FilterTree) (shaped : tree.Shaped) (place : Nat)
    (name : String) (inside : place < tree.size) (missing : childNamed tree place name = none) :
    childNamed (tree.addChild place { name := name }) place name = some tree.size := by
  have others : (tree.childrenOf place).find? (fun child =>
      ((tree.addChild place { name := name }).node? child).any fun node =>
        Text.sameLetters node.name name) = none := by
    rw [childNamed, List.find?_eq_none] at missing
    rw [List.find?_eq_none]
    intro child listed
    have old := (shaped.lt_of_parentOf ((shaped.mem_childrenOf place child).mp listed).1).2
    obtain ⟨node, stands⟩ := tree.exists_node? child old
    obtain ⟨later, standsLater, extended⟩ :=
      Extends.addChild tree place { name := name } inside child node stands
    have apart := missing child listed
    rw [stands, Option.any_some] at apart
    rwa [standsLater, Option.any_some, extended.name]
  have itself : ((tree.addChild place { name := name }).node? tree.size).any
      (fun node => Text.sameLetters node.name name) = true := by
    rw [tree.node?_addChild place tree.size _ inside, if_pos rfl, Option.any_some]
    exact Text.sameLetters_refl name
  rw [childNamed, tree.childrenOf_addChild place place _ inside rfl, if_pos rfl,
    List.find?_append, others, Option.none_or, List.find?_singleton, if_pos itself]

/-- Going down along names reaches the place that they lead to. -/
theorem descend_descends (tree : FilterTree) (grown : tree.Grown) (place : Nat)
    (inside : place < tree.size) (names : List String) :
    Descends tree place names (descend tree place names) := by
  induction names generalizing tree place with
  | nil => exact ⟨grown, .refl tree, inside, rfl, fun _ => rfl⟩
  | cons name rest inductionHypothesis =>
    rw [descend]
    cases found : childNamed tree place name with
    | some child =>
      have further := inductionHypothesis tree grown child
        (lt_size_of_childNamed grown.shaped found)
      refine ⟨further.grown, further.grows, further.inside, ?_, further.filesAt⟩
      rw [locate, childNamed_extends grown.shaped further.grows found]
      exact further.located
    | none =>
      -- The missing filter is added and found at once; what follows only extends the tree.
      have grownMore := grown.addChild place { name := name } inside rfl
      have further := inductionHypothesis _ grownMore tree.size (by simp)
      have added := childNamed_addChild tree grown.shaped place name inside found
      refine ⟨further.grown, ?_, further.inside, ?_, ?_⟩
      · exact (FilterTree.Extends.addChild tree place _ inside).trans further.grows
      · rw [locate, childNamed_extends grownMore.shaped further.grows added]
        exact further.located
      · intro other
        rw [further.filesAt]
        exact tree.filesAt_addChild_of_empty place other _ inside rfl

/-- The filter with a path is at the place that the names on the path lead to. -/
theorem ensureFilter_descends (tree : FilterTree) (grown : tree.Grown) (path : String) :
    Descends tree FilterTree.root (filterNames path) (ensureFilter tree path) :=
  descend_descends tree grown FilterTree.root grown.shaped.rooted (filterNames path)

end ProjectScribe.Reading.ElementFormat
