import Mathlib.Data.List.Count
import Mathlib.Data.List.Perm.Basic
import ProjectScribe.Proofs.FilterTree.Traversal

/-!
# Trees with their histories

A tree comes about from its root alone by new filters, new files and changes of what filters say
about themselves. Whatever happened to it, its links agree with each other, the walk and the climbs
end and come in the right order, it holds every file that was added, once, and its index finds the
last place that has a path. `Coherent` says this of a tree and of the files that were added.
-/
namespace ProjectScribe.FilterTree

open scoped List

/-- A tree that the operations have built, and the files that were added on the way, on their own
or with a new filter. -/
inductive Built : FilterTree → List FileEntry → Prop where
  | empty : Built .empty []
  | addChild {tree : FilterTree} {added : List FileEntry} (built : Built tree added) (place : Nat)
      (node : FilterNode) (inside : place < tree.size) (childless : node.children = []) :
      Built (tree.addChild place node) (added ++ node.files)
  | addFile {tree : FilterTree} {added : List FileEntry} (built : Built tree added) (place : Nat)
      (file : FileEntry) (inside : place < tree.size) :
      Built (tree.addFile place file) (added ++ [file])
  | modify {tree : FilterTree} {added : List FileEntry} (built : Built tree added) (place : Nat)
      (change : FilterNode → FilterNode) (position : KeepsPosition change)
      (files : ∀ node, (change node).files = node.files) :
      Built (tree.modify place change) added

/-- What agrees in a tree: the links between its nodes, the orders in which it is gone through, and
what can be found in it. -/
structure Coherent (tree : FilterTree) (added : List FileEntry) : Prop where
  top : tree.parentOf root = none
  above : ∀ place, place < tree.size → place ≠ root →
    ∃ parent, parent < place ∧ tree.parentOf place = some parent
  once : ∀ place other, other < tree.size →
    (tree.childrenOf other).count place = if tree.parentOf place = some other then 1 else 0
  increasing : ∀ place, (tree.childrenOf place).Pairwise (· < ·)
  ends : Visits tree (tree.childrenOf root) tree.walk
  places : tree.walk.Perm (List.range tree.size).tail
  afterParent : ∀ place parent, tree.parentOf place = some parent → parent ≠ root →
    [parent, place] <+ tree.walk
  together : ∀ place, place < tree.size → place ≠ root →
    ∃ part, part <:+: tree.walk ∧ ∀ other, other ∈ part ↔ LeadsTo tree place other
  siblings : ∀ place, place < tree.size → tree.childrenOf place <+ tree.walk
  climbs : ∀ place, place < tree.size →
    ∃ names, Climbs tree place names ∧ tree.pathOf place = "\\".intercalate names.reverse
  path : ∀ place parent node, tree.parentOf place = some parent → tree.node? place = some node →
    tree.pathOf place =
      if parent = root then node.name else tree.pathOf parent ++ "\\" ++ node.name
  files : tree.files.Perm added
  found : ∀ path place, tree.index.find? path = some place ↔
    IsGreatest {other | (other ≠ root ∧ other < tree.size) ∧ tree.pathOf other = path} place
  missing : ∀ path, tree.index.find? path = none ↔
    ∀ place, place ≠ root → place < tree.size → tree.pathOf place ≠ path

section Files

/-- A new filter brings its files behind all others. -/
theorem files_addChild (tree : FilterTree) (place : Nat) (node : FilterNode)
    (inside : place < tree.size) : (tree.addChild place node).files = tree.files ++ node.files := by
  have earlier : ∀ other ∈ List.range tree.size,
      (tree.addChild place node).filesAt other = tree.filesAt other := by
    intro other listed
    have old : other ≠ tree.size := Nat.ne_of_lt (List.mem_range.mp listed)
    rw [tree.filesAt_addChild place other node inside, if_neg old]
  rw [files_eq_flatMap, files_eq_flatMap, size_addChild, List.range_succ, List.flatMap_append,
    List.flatMap_congr earlier, List.flatMap_singleton,
    tree.filesAt_addChild place tree.size node inside, if_pos rfl]

/-- A file that is added to a node is one more file of the tree. -/
theorem files_addFile_perm (tree : FilterTree) (place : Nat) (file : FileEntry)
    (inside : place < tree.size) : (tree.addFile place file).files.Perm (tree.files ++ [file]) := by
  obtain ⟨nodes⟩ := tree
  change place < nodes.length at inside
  change ((nodes.modify place _).flatMap (·.files)).Perm (nodes.flatMap (·.files) ++ [file])
  induction nodes generalizing place with
  | nil => cases inside
  | cons node rest inductionHypothesis =>
    cases place with
    | zero =>
      rw [List.modify_zero_cons, List.flatMap_cons, List.flatMap_cons, List.append_assoc,
        List.append_assoc]
      exact (List.perm_append_comm).append_left node.files
    | succ place =>
      rw [List.modify_succ_cons, List.flatMap_cons, List.flatMap_cons, List.append_assoc]
      exact (inductionHypothesis place (Nat.lt_of_succ_lt_succ inside)).append_left node.files

/-- A change that leaves the files of its node leaves the files of the tree. -/
theorem files_modify (tree : FilterTree) (place : Nat) (change : FilterNode → FilterNode)
    (keeps : ∀ node, (change node).files = node.files) :
    (tree.modify place change).files = tree.files := by
  rw [files_eq_flatMap, files_eq_flatMap, size_modify]
  exact List.flatMap_congr fun other _ => tree.filesAt_modify place other change keeps

end Files

namespace Built

variable {tree : FilterTree} {added : List FileEntry}

/-- What the operations build has grown. -/
theorem grown (built : Built tree added) : tree.Grown := by
  induction built with
  | empty => exact .empty
  | addChild _ place node inside childless grown => exact grown.addChild place node inside childless
  | addFile _ place file _ grown => exact grown.addFile place file
  | modify _ place change position _ grown => exact grown.modify place change position

/-- A tree has exactly the files that were added. -/
theorem files_perm (built : Built tree added) : tree.files.Perm added := by
  induction built with
  | empty => rfl
  | addChild _ place node inside _ perm =>
    rw [files_addChild _ place node inside]
    exact perm.append_right node.files
  | addFile _ place file inside perm =>
    exact (files_addFile_perm _ place file inside).trans (perm.append_right [file])
  | modify _ place change _ files perm =>
    rw [files_modify _ place change files]
    exact perm

/-- Every tree that the operations build is coherent. -/
theorem coherent (built : Built tree added) : Coherent tree added := by
  have shaped := built.grown.shaped
  have once : ∀ place other, other < tree.size →
      (tree.childrenOf other).count place = if tree.parentOf place = some other then 1 else 0 := by
    intro place other inside
    have distinct : (tree.childrenOf other).Nodup :=
      (shaped.childrenOf_increasing other).imp Nat.ne_of_lt
    rw [distinct.count]
    simp only [shaped.mem_childrenOf, inside, and_true]
  refine ⟨shaped.top, shaped.above, once, shaped.childrenOf_increasing, shaped.visits_walk,
    shaped.walk_perm, fun place parent => shaped.parent_sublist, fun place inside below => ?_,
    shaped.childrenOf_sublist, fun place inside => ?_, fun place parent node =>
      shaped.pathOf_of_parentOf, built.files_perm, tree.find?_index_eq_some_iff,
    tree.find?_index_eq_none_iff⟩
  · exact ⟨_, shaped.downwards_infix place inside below,
      fun other => shaped.mem_downwards_iff tree.size place other inside (by omega)⟩
  · refine ⟨_, shaped.climbs place inside, ?_⟩
    rw [pathOf, namesAbove, List.map_reverse]

end Built

/-- A tree with a filter in another, a file in each, and a third filter that takes the name of the
first. -/
def renamed : FilterTree :=
  (((((empty.addChild 0 { name := "Source" }).addChild 1 { name := "Sub" }).addFile 2
    { path := "a.cpp" }).addChild 0 { name := "Header", files := [{ path := "a.h" }] }).addFile 1
      { path := "b.cpp" }).modify 3 fun node => { node with name := "Source" }

/-- The last filter of a path is found, and the first is still the one to which the others belong. -/
theorem coherent_renamed :
    Built renamed [{ path := "a.cpp" }, { path := "a.h" }, { path := "b.cpp" }] ∧
      Coherent renamed [{ path := "a.cpp" }, { path := "a.h" }, { path := "b.cpp" }] := by
  have source : Built _ _ := .addChild .empty 0 { name := "Source" } (by decide) rfl
  have sub : Built _ _ := .addChild source 1 { name := "Sub" } (by decide) rfl
  have first : Built _ _ := .addFile sub 2 { path := "a.cpp" } (by decide)
  have header : Built _ _ :=
    .addChild first 0 { name := "Header", files := [{ path := "a.h" }] } (by decide) rfl
  have second : Built _ _ := .addFile header 1 { path := "b.cpp" } (by decide)
  have built : Built renamed _ :=
    .modify second 3 (fun node => { node with name := "Source" }) (fun _ => ⟨rfl, rfl⟩)
      fun _ => rfl
  exact ⟨built, built.coherent⟩

end ProjectScribe.FilterTree
