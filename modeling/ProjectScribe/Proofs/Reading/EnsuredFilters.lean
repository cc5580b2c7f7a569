import ProjectScribe.Proofs.FilterTree.Traversal
import ProjectScribe.Proofs.Reading.Spellings

/-!
# Filters that come about with their paths

A tree of items gets its filters from paths only: a path is gone along from the root, and what is
missing is added. So every filter has a name that can stand on a path, and no two filters below one
place agree in their names up to case. Then a path belongs to one filter, whether it is looked up in
an index or gone along, and a filter that a path has led to is what every spelling of the path leads
to, for as long as the tree is built.
-/
namespace ProjectScribe.Reading.ElementFormat

open FilterTree (Extends KeepsNames KeepsPosition SiblingsApart)
open Relation (ReflTransGen)

/-- What happens to a tree while it is built: a path is gone along, a file is added, or something is
said about a filter that is neither its name nor its position. -/
inductive Builds : FilterTree → FilterTree → Prop where
  | ensure (tree : FilterTree) (path : String) : Builds tree (ensureFilter tree path).1
  | file (tree : FilterTree) (place : Nat) (file : FileEntry) :
      Builds tree (tree.addFile place file)
  | say (tree : FilterTree) (place : Nat) (change : FilterNode → FilterNode)
      (position : KeepsPosition change) (name : ∀ node, (change node).name = node.name) :
      Builds tree (tree.modify place change)

/-- A tree whose filters have names that can stand on paths, each in one case only. -/
structure Orderly (tree : FilterTree) : Prop where
  grown : tree.Grown
  apart : tree.SiblingsApart
  named : ∀ place node, place ≠ FilterTree.root → tree.node? place = some node → IsName node.name

/-- What holds of a tree where paths and filters belong together: every filter has a path of its
own, which finds it in an index and leads to it. -/
structure Unambiguous (tree : FilterTree) : Prop where
  named : ∀ place node, place ≠ FilterTree.root → tree.node? place = some node → IsName node.name
  apart : tree.SiblingsApart
  one : ∀ first second, first < tree.size → second < tree.size →
    tree.pathOf first = tree.pathOf second → first = second
  found : ∀ place, place ≠ FilterTree.root → place < tree.size →
    tree.index.find? (tree.pathOf place) = some place
  led : ∀ place, place < tree.size → ensureFilter tree (tree.pathOf place) = (tree, place)

/-- What a path comes to in a tree: all filters keep their places, their names and what is above
them; the filter that is reached has the path, up to its spelling; and as long as the tree is built
this filter is reached again by the spellings of the path, which leave the tree as it is, and by no
other path. -/
structure Settles (tree : FilterTree) (path : String) (reached : FilterTree × Nat) : Prop where
  keeps : KeepsNames tree reached.1
  inside : reached.2 < reached.1.size
  arrives : Text.lower (reached.1.pathOf reached.2) =
    Text.lower ("\\".intercalate (filterNames path))
  again : ∀ later other, ReflTransGen Builds reached.1 later → Respelled path other →
    ensureFilter later other = (later, reached.2)
  only : ∀ later other, ReflTransGen Builds reached.1 later →
    (ensureFilter later other).2 = reached.2 → Respelled path other

/-- An extension keeps all names. -/
theorem keepsNames_of_extends {old new : FilterTree} (grows : Extends old new) :
    KeepsNames old new := by
  intro place node stands
  obtain ⟨later, standsLater, extended⟩ := grows place node stands
  exact ⟨later, standsLater, extended.name, extended.parent⟩

/-- Where names lead, and where one more leads from there. -/
theorem locate_concat (tree : FilterTree) (place : Nat) (names : List String) (name : String) :
    locate tree place (names ++ [name]) =
      (locate tree place names).bind fun target => childNamed tree target name := by
  induction names generalizing place with
  | nil => simp [locate]
  | cons first rest inductionHypothesis =>
    rw [List.cons_append, locate, locate, Option.bind_assoc]
    simp only [inductionHypothesis]

/-- Nothing is added on the way to a filter that is there. -/
theorem descend_of_locate {tree : FilterTree} {place target : Nat} {names : List String}
    (found : locate tree place names = some target) :
    descend tree place names = (tree, target) := by
  induction names generalizing place with
  | nil => rw [descend, Option.some.inj found]
  | cons name rest inductionHypothesis =>
    obtain ⟨child, first, further⟩ := Option.bind_eq_some_iff.mp found
    rw [descend, first]
    exact inductionHypothesis further

/-- The filter that a path leads to has the key of the path. -/
theorem keyAt_ensureFilter {tree : FilterTree} (grown : tree.Grown) (path : String) :
    (ensureFilter tree path).1.keyAt (ensureFilter tree path).2 = filterKey path := by
  have reached := ensureFilter_descends tree grown path
  exact keyAt_locate reached.grown.shaped reached.located

namespace Orderly

variable {tree : FilterTree}

section Building

/-- The tree with nothing but the root is orderly. -/
theorem empty : Orderly .empty := by
  refine ⟨.empty, Reflects.empty.apart, fun place node below stands => ?_⟩
  have inside := FilterTree.lt_size_of_node? stands
  exact absurd (Nat.lt_one_iff.mp inside) below

/-- A missing filter is added in order if its name can stand on a path. -/
theorem addChild (orderly : Orderly tree) (place : Nat) (name : String)
    (inside : place < tree.size) (proper : IsName name)
    (missing : childNamed tree place name = none) :
    Orderly (tree.addChild place { name := name }) := by
  refine ⟨orderly.grown.addChild place _ inside rfl, orderly.apart.addChild place _ inside
    (of_childNamed_eq_none orderly.grown.shaped inside missing), ?_⟩
  intro other node below stands
  rw [tree.node?_addChild place other _ inside] at stands
  split at stands
  · rw [← Option.some.inj stands]
    exact proper
  · split at stands
    · obtain ⟨earlier, stood, rfl⟩ := Option.map_eq_some_iff.mp stands
      exact orderly.named other earlier below stood
    · exact orderly.named other node below stands

/-- Names that can stand on a path are gone along in order. -/
theorem descend (orderly : Orderly tree) (place : Nat) (inside : place < tree.size)
    (names : List String) (proper : ∀ name ∈ names, IsName name) :
    Orderly (descend tree place names).1 := by
  induction names generalizing tree place with
  | nil => exact orderly
  | cons name rest inductionHypothesis =>
    obtain ⟨properFirst, properRest⟩ := List.forall_mem_cons.mp proper
    rw [ElementFormat.descend]
    cases found : childNamed tree place name with
    | some child =>
      have placed := lt_size_of_childNamed orderly.grown.shaped found
      exact inductionHypothesis orderly child placed properRest
    | none =>
      have added := orderly.addChild place name inside properFirst found
      exact inductionHypothesis added tree.size (by simp) properRest

/-- What is said about a filter leaves the order. -/
theorem modify (orderly : Orderly tree) (place : Nat) (change : FilterNode → FilterNode)
    (position : KeepsPosition change) (name : ∀ node, (change node).name = node.name) :
    Orderly (tree.modify place change) := by
  have keeps := KeepsNames.modify tree place change position name
  refine ⟨orderly.grown.modify place change position,
    orderly.apart.of_keepsNames keeps (tree.size_modify place change), ?_⟩
  intro other node below stands
  rw [FilterTree.node?_modify] at stands
  split at stands
  · obtain ⟨earlier, stood, rfl⟩ := Option.map_eq_some_iff.mp stands
    rw [name]
    exact orderly.named other earlier below stood
  · exact orderly.named other node below stands

/-- Whatever happens to a tree leaves it orderly, and all filters keep their names. -/
theorem of_builds {later : FilterTree} (orderly : Orderly tree) (builds : Builds tree later) :
    Orderly later ∧ KeepsNames tree later := by
  cases builds with
  | ensure path =>
    have grows := (ensureFilter_descends tree orderly.grown path).grows
    refine ⟨?_, keepsNames_of_extends grows⟩
    exact orderly.descend FilterTree.root orderly.grown.shaped.rooted (filterNames path)
      fun name listed => isName_of_mem_filterNames listed
  | file place file =>
    have position := FilterTree.keepsPosition_addFile file
    exact ⟨orderly.modify place _ position fun _ => rfl,
      KeepsNames.modify tree place _ position fun _ => rfl⟩
  | say place change position name =>
    exact ⟨orderly.modify place change position name,
      KeepsNames.modify tree place change position name⟩

/-- A tree stays orderly for as long as it is built, and all filters keep their names. -/
theorem of_history {later : FilterTree} (orderly : Orderly tree)
    (history : ReflTransGen Builds tree later) : Orderly later ∧ KeepsNames tree later := by
  induction history with
  | refl => exact ⟨orderly, .refl tree⟩
  | tail _ builds inductionHypothesis =>
    obtain ⟨orderlyBetween, keeps⟩ := inductionHypothesis
    obtain ⟨orderlyLater, keepsFurther⟩ := orderlyBetween.of_builds builds
    exact ⟨orderlyLater, keeps.trans keepsFurther⟩

end Building

section Finding

/-- A filter is found by its name, in any case. -/
theorem childNamed_eq_some (orderly : Orderly tree) {place child : Nat} {node : FilterNode}
    {name : String} (inside : place < tree.size) (above : tree.parentOf child = some place)
    (stands : tree.node? child = some node) (same : Text.lower node.name = Text.lower name) :
    childNamed tree place name = some child := by
  have shaped := orderly.grown.shaped
  cases found : childNamed tree place name with
  | none => exact absurd same (of_childNamed_eq_none shaped inside found child node above stands)
  | some other =>
    obtain ⟨aboveOther, node', standsOther, sameOther⟩ := of_childNamed shaped found
    rw [orderly.apart other child place node' node aboveOther above standsOther stands
      (sameOther.trans same.symm)]

/-- Names lead to the filter whose key they are. -/
theorem locate_of_keyAt (orderly : Orderly tree) {place target : Nat} (inside : place < tree.size)
    (placed : target < tree.size) {names : List String}
    (key : tree.keyAt target = tree.keyAt place ++ names.map Text.lower) :
    locate tree place names = some target := by
  have shaped := orderly.grown.shaped
  induction names using List.reverseRecOn generalizing target with
  | nil =>
    rw [List.map_nil, List.append_nil] at key
    rw [locate, shaped.eq_of_keyAt orderly.apart placed inside key]
  | append_singleton names name inductionHypothesis =>
    rw [List.map_append, List.map_singleton, ← List.append_assoc] at key
    rcases shaped.root_or_below placed with rfl | ⟨parent, node, earlier, above, stands⟩
    · rw [FilterTree.keyAt_root] at key
      exact absurd key.symm (List.append_ne_nil_of_right_ne_nil _ (List.cons_ne_nil _ _))
    · rw [shaped.keyAt_of_parentOf above stands, List.append_singleton_inj] at key
      obtain ⟨keyAbove, same⟩ := key
      have insideAbove : parent < tree.size := by omega
      rw [locate_concat, inductionHypothesis insideAbove keyAbove, Option.bind_some]
      exact orderly.childNamed_eq_some insideAbove above stands same

/-- A path leads to the filter that has its key, and nothing is added. -/
theorem ensureFilter_of_keyAt (orderly : Orderly tree) {place : Nat} (inside : place < tree.size)
    {path : String} (key : tree.keyAt place = filterKey path) :
    ensureFilter tree path = (tree, place) := by
  refine descend_of_locate (orderly.locate_of_keyAt orderly.grown.shaped.rooted inside ?_)
  rw [key, FilterTree.keyAt_root, List.nil_append]
  rfl

/-- The names on the path of a filter are those from below the root down to it. -/
theorem filterNames_pathOf (orderly : Orderly tree) {place : Nat} (inside : place < tree.size) :
    filterNames (tree.pathOf place) = (tree.ancestry place).reverse.map (·.name) := by
  have shaped := orderly.grown.shaped
  have proper : ∀ node ∈ tree.ancestry place, IsName node.name := by
    induction place using Nat.strongRecOn with
    | ind place inductionHypothesis =>
      rcases shaped.root_or_below inside with rfl | ⟨parent, node, earlier, above, stands⟩
      · intro node listed
        cases listed
      · have below : place ≠ FilterTree.root := Nat.ne_of_gt (Nat.zero_lt_of_lt earlier)
        rw [shaped.ancestry_of_parentOf above, stands]
        refine List.forall_mem_cons.mpr ⟨orderly.named place node below stands, ?_⟩
        exact inductionHypothesis parent earlier (by omega)
  refine filterNames_intercalate _ fun name listed => ?_
  obtain ⟨node, among, rfl⟩ := List.mem_map.mp listed
  exact proper node (List.mem_reverse.mp among)

/-- The key of a filter is that of its path. -/
theorem filterKey_pathOf (orderly : Orderly tree) {place : Nat} (inside : place < tree.size) :
    filterKey (tree.pathOf place) = tree.keyAt place := by
  rw [filterKey, orderly.filterNames_pathOf inside, List.map_map]
  rfl

/-- In an orderly tree paths and filters belong together. -/
theorem unambiguous (orderly : Orderly tree) : Unambiguous tree := by
  have shaped := orderly.grown.shaped
  have one : ∀ first second, first < tree.size → second < tree.size →
      tree.pathOf first = tree.pathOf second → first = second := by
    intro first second inside insideToo same
    have key : tree.keyAt first = tree.keyAt second := by
      rw [← orderly.filterKey_pathOf inside, same, orderly.filterKey_pathOf insideToo]
    exact shaped.eq_of_keyAt orderly.apart inside insideToo key
  refine ⟨orderly.named, orderly.apart, one, fun place below inside => ?_, fun place inside =>
    orderly.ensureFilter_of_keyAt inside (orderly.filterKey_pathOf inside).symm⟩
  rw [tree.find?_index_eq_some_iff]
  refine ⟨⟨⟨below, inside⟩, rfl⟩, ?_⟩
  rintro other ⟨⟨-, placed⟩, same⟩
  exact Nat.le_of_eq (one other place placed inside same)

/-- In an orderly tree a path comes to one filter for good. -/
theorem settles (orderly : Orderly tree) (path : String) :
    Settles tree path (ensureFilter tree path) := by
  obtain ⟨orderlyAfter, keeps⟩ := orderly.of_builds (.ensure tree path)
  have inside := (ensureFilter_descends tree orderly.grown path).inside
  have key := keyAt_ensureFilter orderly.grown path
  generalize ensureFilter tree path = reached at orderlyAfter keeps inside key
  have keyLater : ∀ {later : FilterTree}, Orderly later → KeepsNames reached.1 later →
      later.keyAt reached.2 = filterKey path := by
    intro later orderlyLater keepsLater
    rw [keepsLater.keyAt_eq orderlyAfter.grown.shaped orderlyLater.grown.shaped inside, key]
  refine ⟨keeps, inside, ?_, fun later other history respelled => ?_,
    fun later other history same => ?_⟩
  · rw [FilterTree.lower_pathOf, key, Text.lower_intercalate]
    rfl
  · obtain ⟨orderlyLater, keepsLater⟩ := orderlyAfter.of_history history
    refine orderlyLater.ensureFilter_of_keyAt (keepsLater.lt_size inside) ?_
    rw [keyLater orderlyLater keepsLater, (respelled_iff path other).mp respelled]
  · -- The other path leads to a place that has the keys of both.
    obtain ⟨orderlyLater, keepsLater⟩ := orderlyAfter.of_history history
    obtain ⟨orderlyLast, keepsLast⟩ := orderlyLater.of_builds (.ensure later other)
    rw [respelled_iff, ← keyLater orderlyLast (keepsLater.trans keepsLast), ← same]
    exact keyAt_ensureFilter orderlyLater.grown other

end Finding

end Orderly

section Items

/-- A filter item builds on a tree. -/
theorem builds_addFilter (tree : FilterTree) (item : Item) :
    ReflTransGen Builds tree (addFilter tree item).value := by
  have opened : Builds tree (ensureFilter tree item.path).1 := .ensure tree item.path
  rw [value_addFilter]
  exact .tail (.single opened) (.say _ _ item.applyTo (fun _ => ⟨rfl, rfl⟩) fun _ => rfl)

/-- The filter in which an item stands is reached by building on a tree. -/
theorem builds_ensureFilterOf (tree : FilterTree) (item : Item) :
    ReflTransGen Builds tree (ensureFilterOf tree item).1 := by
  rw [ensureFilterOf]
  split
  · exact .refl
  · exact .refl
  · exact .single (.ensure tree _)

/-- An item that is no filter builds on a tree. -/
theorem builds_addItem (tree : FilterTree) (item : Item) :
    ReflTransGen Builds tree (addItem tree item).value := by
  have opened := builds_ensureFilterOf tree item
  rw [addItem]
  split
  · exact .refl
  · split
    · exact .refl
    · dsimp only
      split
      · exact .refl
      · rw [addFile]
        generalize ensureFilterOf tree item = reached at opened
        obtain ⟨between, place⟩ := reached
        dsimp only at opened ⊢
        split
        · exact opened
        · exact .tail opened (.file between place _)

/-- The tree of all items is built from the root alone. -/
theorem builds_treeOfItems (all : List Item) :
    ReflTransGen Builds .empty (treeOfItems all).value := by
  have filters : ReflTransGen Builds .empty
      (Reported.fold addFilter .empty (all.filter (·.kind = "Filter"))).value :=
    Reported.fold_keeps (fun tree item _ history => history.trans (builds_addFilter tree item)) _
      .refl
  exact Reported.fold_keeps
    (fun tree item _ history => history.trans (builds_addItem tree item)) _ filters

/-- In the tree of all items paths and filters belong together. -/
theorem treeOfItems_unambiguous (all : List Item) : Unambiguous (treeOfItems all).value :=
  (Orderly.empty.of_history (builds_treeOfItems all)).1.unambiguous

end Items

/-- In every tree that is built from the root alone, paths and filters belong together, and every
path comes to one filter for good. -/
theorem paths_settled {tree : FilterTree} (history : ReflTransGen Builds .empty tree) :
    Unambiguous tree ∧ ∀ path, Settles tree path (ensureFilter tree path) := by
  obtain ⟨orderly, -⟩ := Orderly.empty.of_history history
  exact ⟨orderly.unambiguous, orderly.settles⟩

/-- The tree that a path into a filter in another makes, with a file. -/
def sources : FilterTree :=
  (ensureFilter .empty "Source Files\\Sub").1.addFile 2 { path := "a.cpp" }

/-- The filter is found by its path, and reached again by a path that is spelled otherwise. -/
theorem paths_settled_sources :
    ReflTransGen Builds .empty sources ∧ Unambiguous sources ∧
      Respelled "Source Files\\Sub" "/source files//SUB" ∧
      ensureFilter sources "/source files//SUB" = (sources, 2) := by
  have file : Builds (ensureFilter .empty "Source Files\\Sub").1 sources := .file _ 2 _
  have history : ReflTransGen Builds .empty sources :=
    .tail (.single (.ensure .empty "Source Files\\Sub")) file
  have respelled : Respelled "Source Files\\Sub" "/source files//SUB" :=
    (respelled_iff _ _).mpr (by decide +kernel)
  have settled := (paths_settled .refl).2 "Source Files\\Sub"
  have again := settled.again sources "/source files//SUB" (.single file) respelled
  have place : (ensureFilter .empty "Source Files\\Sub").2 = 2 := by decide +kernel
  exact ⟨history, (paths_settled history).1, respelled, by rw [again, place]⟩

end ProjectScribe.Reading.ElementFormat
