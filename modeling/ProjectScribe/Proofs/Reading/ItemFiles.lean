import Mathlib.Data.List.Forall2
import ProjectScribe.Proofs.Reading.CompanionItems
import ProjectScribe.Proofs.Reading.ElementSteps
import ProjectScribe.Proofs.Reading.FilterPaths
import ProjectScribe.Proofs.Reading.Outcome

/-!
# What becomes of the items of the newer format

Each element in an item group states an item by its name, its `Include` and what stands in it. The
items that a project file and its companion state become one list. First all filters are entered
into a tree; then each item that is a file with a path is filed in the node that its
filter names, or left out for the sake of its filters or its name. Trees only get more meanwhile,
so what becomes of an item can be told from the complete tree alone.
-/
namespace ProjectScribe.Reading.ElementFormat

open FilterTree (Extends)
open Xml (Element)

/-- Whether what is said about an item excludes it from the build. -/
def Metadata.excludes (part : Metadata) : Bool :=
  part.name = "ExcludedFromBuild" && isYes part.value

namespace Item

/-- Whether an item is a file with a path. -/
def isFile (item : Item) : Bool := item.kind ∈ fileKinds ∧ Path.normal item.path ≠ ""

/-- The names of the filters that lead to an item: none without a filter or with an empty one. -/
def filterPath (item : Item) : List String :=
  match item.find? "Filter" with
  | none | some "" => []
  | some filter => filterNames filter

/-- The place of the filter that an item names, in a tree that has it. -/
def placeIn (tree : FilterTree) (item : Item) : Option Nat :=
  locate tree FilterTree.root item.filterPath

/-- Why an item is left out that stands in the filter at a place, if it is. -/
def reason? (tree : FilterTree) (place : Nat) (item : Item) : Option SkipReason :=
  (inheritedSkipReason? tree place).or (skipReason? (Path.normal item.path))

/-- The file that an item states: it has the path of the item in its normal form, is excluded if
anything that is said about the item says so, and is left to its tool if the item has one. -/
def entry (item : Item) : FileEntry where
  path := Path.normal item.path
  override := if item.metadata.any (·.excludes) then some ⟨true⟩ else none
  customBuild := if item.kind = "CustomBuild" then some "CustomBuild item" else none

theorem path_entry (item : Item) : item.entry.path = Path.normal item.path := rfl

/-- What becomes of an item in a tree that has its filter. -/
def outcome (tree : FilterTree) (item : Item) : Outcome :=
  if item.isFile then
    match item.placeIn tree with
    | none => .nothing
    | some place =>
      match item.reason? tree place with
      | some reason => .leftOut (Path.normal item.path) reason
      | none => .filed place item.entry
  else .nothing

end Item

/-- What is said about an item excludes the file, or leaves it. -/
theorem value_readFileMetadata (kind : String) (file : FileEntry) (parts : List Metadata) :
    (Reported.fold (readFileMetadata kind) file parts).value =
      { file with override := if parts.any (·.excludes) then some ⟨true⟩ else file.override } := by
  induction parts generalizing file with
  | nil => rfl
  | cons part rest inductionHypothesis =>
    rw [Reported.fold, Reported.value_bind, inductionHypothesis, readFileMetadata, List.any_cons]
    by_cases excludes : part.name = "ExcludedFromBuild" ∧ isYes part.value = true
    · have said : part.excludes = true := by simpa [Metadata.excludes] using excludes
      rw [if_pos excludes, said]
      simp
    · have unsaid : part.excludes = false := by simpa [Metadata.excludes] using excludes
      rw [if_neg excludes, unsaid]
      rfl

theorem value_readFile (item : Item) :
    (readFile item (Path.normal item.path)).value = item.entry := by
  rw [readFile, Reported.value_bind, value_readFileMetadata, Item.entry]
  split <;> rfl

/-- What is filed of an item is the file that it states. -/
theorem Item.of_outcome_eq_filed {tree : FilterTree} {item : Item} {place : Nat} {file : FileEntry}
    (filed : item.outcome tree = .filed place file) : item.isFile = true ∧ file = item.entry := by
  rw [outcome] at filed
  split at filed
  · next isFile =>
    refine ⟨isFile, ?_⟩
    split at filed
    · cases filed
    · split at filed
      · cases filed
      · cases filed
        rfl
  · cases filed

/-- A reading that enters items into a tree: the tree is extended, has a place for every item that
is a file, and is accounted for with what becomes of the items. -/
structure Enters (tree : FilterTree) (reading : Reading FilterTree) (items : List Item) : Prop where
  grown : reading.value.Grown
  grows : Extends tree reading.value
  placed : ∀ item ∈ items, item.isFile = true →
    ∃ place, place < reading.value.size ∧ item.placeIn reading.value = some place
  accounts : Accounts tree reading (items.map (·.outcome reading.value))

section Entering

/-- What becomes of an item is the same in every extension of a tree that has its filter. -/
theorem outcome_extends {old new : FilterTree} (shaped : old.Shaped) (grows : Extends old new)
    (item : Item)
    (placed : item.isFile = true → ∃ place, place < old.size ∧ item.placeIn old = some place) :
    item.outcome new = item.outcome old := by
  rw [Item.outcome, Item.outcome]
  by_cases isFile : item.isFile = true
  · obtain ⟨place, inside, found⟩ := placed isFile
    have foundAgain : item.placeIn new = some place := locate_extends shaped grows found
    have reason : item.reason? new place = item.reason? old place := by
      rw [Item.reason?, Item.reason?, inheritedSkipReason?_extends shaped grows inside]
    rw [if_pos isFile, if_pos isFile, found, foundAgain]
    simp only [reason]
  · rw [if_neg isFile, if_neg isFile]

namespace Enters

variable {tree : FilterTree} {reading : Reading FilterTree} {items others : List Item}

/-- Two steps in a row enter the items of both. -/
theorem bind {next : FilterTree → Reading FilterTree} (first : Enters tree reading items)
    (second : Enters reading.value (next reading.value) others) :
    Enters tree (reading >>= next) (items ++ others) where
  grown := second.grown
  grows := first.grows.trans second.grows
  placed := by
    intro item listed isFile
    rcases List.mem_append.mp listed with earlier | later
    · obtain ⟨place, inside, found⟩ := first.placed item earlier isFile
      exact ⟨place, Nat.lt_of_lt_of_le inside second.grows.size_le,
        locate_extends first.grown.shaped second.grows found⟩
    · exact second.placed item later isFile
  accounts := by
    have stable : items.map (·.outcome (reading >>= next).value) =
        items.map (·.outcome reading.value) :=
      List.map_congr_left fun item listed =>
        outcome_extends first.grown.shaped second.grows item (first.placed item listed)
    rw [List.map_append, stable]
    exact first.accounts.bind second.accounts

/-- A quiet reading that leaves the tree enters an item that is no file. -/
theorem ofNoFile (grown : tree.Grown) (same : reading.value = tree) (quiet : Quiet reading)
    (item : Item) (noFile : item.isFile = false) : Enters tree reading [item] where
  grown := by rwa [same]
  grows := by
    rw [same]
    exact .refl tree
  placed := by simp [noFile]
  accounts := by
    refine .ofNothing (fun place => by rw [same]) quiet fun outcome listed => ?_
    rw [List.mem_map] at listed
    obtain ⟨other, isItem, rfl⟩ := listed
    rw [List.mem_singleton.mp isItem, Item.outcome, noFile]
    rfl

end Enters

/-- The filter of an item is reached along its path. -/
theorem ensureFilterOf_eq (tree : FilterTree) (item : Item) :
    ensureFilterOf tree item = descend tree FilterTree.root item.filterPath := by
  rw [ensureFilterOf, Item.filterPath]
  cases item.find? "Filter" with
  | none => rfl
  | some filter =>
    by_cases empty : filter = ""
    · subst empty
      rfl
    · simp only [ensureFilter]

/-- A file item is entered in the node of its filter, or left out. -/
theorem addFile_enters (tree : FilterTree) (grown : tree.Grown) (item : Item)
    (isFile : item.isFile = true) :
    Enters tree (addFile tree item (Path.normal item.path)) [item] := by
  have reached := descend_descends tree grown FilterTree.root grown.shaped.rooted item.filterPath
  rw [addFile, ensureFilterOf_eq]
  generalize descend tree FilterTree.root item.filterPath = arrival at reached
  obtain ⟨between, place⟩ := arrival
  have inside : place < between.size := reached.inside
  have found : item.placeIn between = some place := reached.located
  have shaped := reached.grown.shaped
  cases known : item.reason? between place with
  | some reason =>
    rw [Item.reason?] at known
    simp only [known]
    have outcome : item.outcome between = .leftOut (Path.normal item.path) reason := by
      simp [Item.outcome, Item.reason?, isFile, found, known]
    refine ⟨reached.grown, reached.grows, ?_, ?_⟩
    · intro other listed _
      rw [List.mem_singleton.mp listed]
      exact ⟨place, inside, found⟩
    · change Accounts tree _ [item.outcome between]
      rw [outcome]
      exact (Accounts.skip between _ reason).ofSame reached.filesAt
  | none =>
    rw [Item.reason?] at known
    simp only [known]
    have grows := FilterTree.Extends.addFile between place item.entry
    -- The file itself changes nothing about where its filter is found.
    have outcome : item.outcome (between.addFile place item.entry) = .filed place item.entry := by
      rw [outcome_extends shaped grows item fun _ => ⟨place, inside, found⟩]
      simp [Item.outcome, Item.reason?, isFile, found, known]
    have value : (do
          let file ← readFile item (Path.normal item.path)
          Reported.noteIf file.isExcluded (.excluded (Path.normal item.path))
          return between.addFile place file : Reading FilterTree).value =
        between.addFile place item.entry := by
      rw [Reported.value_bind, value_readFile]
      rfl
    refine ⟨?_, ?_, ?_, ?_⟩
    · rw [value]
      exact reached.grown.addFile place item.entry
    · rw [value]
      exact reached.grows.trans grows
    · intro other listed _
      rw [List.mem_singleton.mp listed, value]
      exact ⟨place, Nat.lt_of_lt_of_le inside grows.size_le, locate_extends shaped grows found⟩
    · rw [List.map_singleton, value, outcome]
      refine .afterQuiet (quiet_readFile item _) ?_
      rw [value_readFile]
      refine .afterQuiet ?_ ((Accounts.addFile between place item.entry inside).ofSame
        reached.filesAt)
      rw [quiet_noteIf]
      exact fun _ => rfl

/-- An item that is no filter is entered. -/
theorem addItem_enters (tree : FilterTree) (grown : tree.Grown) (item : Item) :
    Enters tree (addItem tree item) [item] := by
  rw [addItem]
  by_cases isOther : item.kind ∈ otherKinds
  · have apart : ∀ kind ∈ otherKinds, kind ∉ fileKinds := by decide
    rw [if_pos isOther]
    exact .ofNoFile grown rfl (quiet_pure tree) item
      (by simp [Item.isFile, apart item.kind isOther])
  · rw [if_neg isOther]
    by_cases isKind : item.kind ∈ fileKinds
    · rw [if_neg (not_not_intro isKind)]
      by_cases pathless : Path.normal item.path = ""
      · simp only [if_pos pathless]
        exact .ofNoFile grown rfl (quiet_pure tree) item (by simp [Item.isFile, pathless])
      · simp only [if_neg pathless]
        exact addFile_enters tree grown item (by simp [Item.isFile, isKind, pathless])
    · rw [if_pos isKind]
      exact .ofNoFile grown rfl (by simp) item (by simp [Item.isFile, isKind])

/-- Items that are no filters are entered one after the other. -/
theorem addItems_enter (tree : FilterTree) (grown : tree.Grown) (items : List Item) :
    Enters tree (Reported.fold addItem tree items) items := by
  induction items generalizing tree with
  | nil =>
    rw [Reported.fold]
    exact ⟨grown, .refl tree, by simp, .ofNothing (fun _ => rfl) (quiet_pure tree) (by simp)⟩
  | cons item rest inductionHypothesis =>
    have first := addItem_enters tree grown item
    rw [Reported.fold]
    exact first.bind (inductionHypothesis _ first.grown)

/-- What a filter item says keeps a tree grown, and changes no files. -/
theorem addFilter_keeps (tree : FilterTree) (grown : tree.Grown) (item : Item) :
    (addFilter tree item).value.Grown ∧
      ∀ place, (addFilter tree item).value.filesAt place = tree.filesAt place := by
  have reached := ensureFilter_descends tree grown item.path
  rw [addFilter]
  generalize ensureFilter tree item.path = arrival at reached
  obtain ⟨between, place⟩ := arrival
  have leaves : ∀ (current : FilterTree) (change : FilterNode → FilterNode),
      FilterTree.KeepsPosition change → (∀ node, (change node).files = node.files) →
      (current.Grown ∧ ∀ other, current.filesAt other = tree.filesAt other) →
      (current.modify place change).Grown ∧
        ∀ other, (current.modify place change).filesAt other = tree.filesAt other := by
    rintro current change position files ⟨grown, same⟩
    refine ⟨grown.modify place change position, fun other => ?_⟩
    rw [current.filesAt_modify place other change files, same]
  have opened : between.Grown ∧ ∀ other, between.filesAt other = tree.filesAt other :=
    ⟨reached.grown, reached.filesAt⟩
  simp only [Reported.value_bind, Reported.value_pure]
  cases item.find? "Extensions" with
  | none =>
    cases item.find? "SourceControlFiles" with
    | none => exact opened
    | some tracked => exact leaves between _ (fun _ => ⟨rfl, rfl⟩) (fun _ => rfl) opened
  | some extensions =>
    have extended := leaves between (fun node =>
      { node with extensions := some (items isSemicolon extensions) })
      (fun _ => ⟨rfl, rfl⟩) (fun _ => rfl) opened
    cases item.find? "SourceControlFiles" with
    | none => exact extended
    | some tracked => exact leaves _ _ (fun _ => ⟨rfl, rfl⟩) (fun _ => rfl) extended

/-- Filters keep the tree grown, and without files. -/
theorem addFilters_keep (tree : FilterTree) (grown : tree.Grown) (filters : List Item) :
    (Reported.fold addFilter tree filters).value.Grown ∧
      ∀ place, (Reported.fold addFilter tree filters).value.filesAt place =
        tree.filesAt place := by
  induction filters generalizing tree with
  | nil => exact ⟨grown, fun _ => rfl⟩
  | cons item rest inductionHypothesis =>
    obtain ⟨grownMore, same⟩ := addFilter_keeps tree grown item
    obtain ⟨grownAll, sameAll⟩ := inductionHypothesis _ grownMore
    exact ⟨grownAll, fun place => (sameAll place).trans (same place)⟩

/-- The tree of items has a place for every item that is a file, and accounts for what becomes of
all items. -/
theorem treeOfItems_accounts (all : List Item) :
    (∀ item ∈ all, item.isFile = true → ∃ place, place < (treeOfItems all).value.size ∧
        item.placeIn (treeOfItems all).value = some place) ∧
      Accounts .empty (treeOfItems all) (all.map (·.outcome (treeOfItems all).value)) := by
  have noFile : ∀ item : Item, decide (item.kind ≠ "Filter") = false → item.isFile = false := by
    intro item isFilter
    have kind : item.kind = "Filter" := by simpa using isFilter
    rw [Item.isFile, kind]
    rfl
  obtain ⟨grown, same⟩ := addFilters_keep .empty .empty (all.filter (·.kind = "Filter"))
  have entered := addItems_enter _ grown (all.filter (·.kind ≠ "Filter"))
  constructor
  · intro item listed isFile
    refine entered.placed item (List.mem_filter.mpr ⟨listed, ?_⟩) isFile
    by_contra isFilter
    rw [noFile item (by simpa using isFilter)] at isFile
    exact Bool.false_ne_true isFile
  · -- Filter items come first and are no files, so they can be counted among all items.
    refine .afterQuiet (quiet_fold _ _ _ fun tree item _ => quiet_addFilter tree item) ?_
    refine (entered.accounts.ofSame same).ofFilter fun item _ isFilter => ?_
    rw [Item.outcome, noFile item isFilter]
    rfl

/-- The files in the tree of items are those that the items state. -/
theorem exists_item_of_mem_files (all : List Item) {file : FileEntry}
    (stands : file ∈ (treeOfItems all).value.files) :
    ∃ item ∈ all, item.isFile = true ∧ file = item.entry := by
  obtain ⟨place, among⟩ := (treeOfItems_accounts all).2.mem_files_iff.mp stands
  obtain ⟨item, listed, filed⟩ := List.mem_map.mp among
  exact ⟨item, listed, Item.of_outcome_eq_filed filed⟩

end Entering

section Projects

/-- The items of a project file with those of its companion. -/
def mergedItems (parts : List Element) (companion : Option Element) : List Item :=
  (readCompanion (primaryItems parts) companion).value

/-- A project file declares one project, with the tree of the merged items, and leaves out the
files that the items leave out. -/
theorem readProjects_eq (document element : Element) (companion : Option Element)
    (fallback : String) (found : projectElement? document = some element) :
    ∃ project, (readProjects document companion fallback).value = [project] ∧
      project.filters = (treeOfItems (mergedItems element.children companion)).value ∧
      leftOut (readProjects document companion fallback).notes =
        leftOut (treeOfItems (mergedItems element.children companion)).notes := by
  have quietParts : Quiet (Reported.fold readProjectPart ({ dialect := some .vcxproj }, [])
      element.children) := quiet_fold _ _ _ fun state part _ => quiet_readProjectPart state part
  have known := items_readProjectParts ({ dialect := some .vcxproj }, []) element.children
  rw [List.nil_append] at known
  rw [readProjects, found]
  dsimp only
  generalize Reported.fold readProjectPart ({ dialect := some .vcxproj }, []) element.children =
    state at quietParts known ⊢
  obtain ⟨⟨project, items⟩, notes⟩ := state
  have same : items = primaryItems element.children := known
  subst same
  refine ⟨_, rfl, rfl, ?_⟩
  have quietMerge := quiet_readCompanion (primaryItems element.children) companion
  rw [Quiet] at quietParts quietMerge
  simp only [finish, Reported.notes_bind, Reported.notes_pure, leftOut_append, quietParts,
    quietMerge, List.nil_append, List.append_nil]
  rfl

/-- The files of a project are those that the merged items state. -/
theorem exists_item_of_mem_project {document : Element} {companion : Option Element}
    {fallback : String} {project : Project}
    (declared : project ∈ (readProjects document companion fallback).value) {file : FileEntry}
    (stands : file ∈ project.filters.files) :
    ∃ item ∈ mergedItems document.children companion, item.isFile = true ∧ file = item.entry := by
  by_cases isProject : document.name = "Project"
  · obtain ⟨only, value, filters, -⟩ :=
      readProjects_eq document document companion fallback (if_pos isProject)
    rw [value, List.mem_singleton] at declared
    rw [declared, filters] at stands
    exact exists_item_of_mem_files _ stands
  · have none : projectElement? document = none := if_neg isProject
    rw [readProjects, none] at declared
    cases declared

end Projects

section Documents

/-- An element states an item: its name is the kind and its `Include` the path, which is empty
without it, and the elements in it are what is said about the item, with their trimmed texts. -/
structure States (element : Element) (item : Item) : Prop where
  kind : item.kind = element.name
  path : item.path = (element.value? "Include").getD ""
  metadata : item.metadata = element.children.map fun part => ⟨part.name, trimmed part.text⟩

/-- The elements in the item groups of a project file, but for the groups of configurations. -/
def statingElements (document : Element) : List Element :=
  (document.children.filter fun group => group.name = "ItemGroup" ∧
    group.value? "Label" ≠ some "ProjectConfigurations").flatMap (·.children)

/-- The elements in each of the item groups of a companion. A file of another kind has none. -/
def companionElements : Option Element → List (List Element)
  | none => []
  | some document =>
    if document.name = "Project" then
      (document.children.filter (·.name = "ItemGroup")).map (·.children)
    else []

/-- Lists are related by a function just if one is the image of the other. -/
theorem forall₂_iff_map_eq {α β : Type} {relation : α → β → Prop} {image : α → β}
    (functional : ∀ a b, relation a b ↔ image a = b) (first : List α) (second : List β) :
    List.Forall₂ relation first second ↔ first.map image = second := by
  have same : relation = fun a b => image a = b := funext₂ fun a b => propext (functional a b)
  rw [← List.forall₂_eq_eq_eq, List.forall₂_map_left_iff, same]

theorem states_iff (element : Element) (item : Item) :
    States element item ↔ Item.ofElement element = item := by
  constructor
  · rintro ⟨kind, path, metadata⟩
    cases item
    subst kind path metadata
    rfl
  · rintro rfl
    exact ⟨rfl, rfl, rfl⟩

theorem forall₂_states_iff (elements : List Element) (items : List Item) :
    List.Forall₂ States elements items ↔ elements.map Item.ofElement = items :=
  forall₂_iff_map_eq states_iff elements items

/-- The items of a project file are stated by its elements, one by one. -/
theorem stated_primaryItems (document : Element) :
    List.Forall₂ States (statingElements document) (primaryItems document.children) := by
  rw [forall₂_states_iff, statingElements, List.map_flatMap]
  rfl

/-- So are the groups of a companion. -/
theorem stated_groupsOf (companion : Option Element) :
    List.Forall₂ (List.Forall₂ States) (companionElements companion) (groupsOf companion) := by
  rw [forall₂_iff_map_eq forall₂_states_iff]
  cases companion with
  | none => rfl
  | some document =>
    rw [companionElements, groupsOf, Option.bind_some, projectElement?]
    split
    · rw [List.map_map]
      rfl
    · rfl

/-- The items of a project file and its companion that are merged: those of the project file, and
behind them those of the companion that are new when their group comes. The first item of each key
says what the last item of the companion says that was not new. -/
theorem mergedItems_eq (parts : List Element) (companion : Option Element) :
    mergedItems parts companion =
      refresh (applications (primaryItems parts) (groupsOf companion))
        (primaryItems parts ++ additions (primaryItems parts) (groupsOf companion)) := by
  rw [mergedItems, value_readCompanion, foldl_mergeGroup]

/-- An item that no item of a companion is the same as stays what it is, where it is. -/
theorem getElem?_merged {known : List Item} {groups : List (List Item)} {position : Nat}
    {item : Item} (stands : known[position]? = some item)
    (apart : ∀ stated ∈ groups.flatten, item.isSame stated = false) :
    (refresh (applications known groups) (known ++ additions known groups))[position]? =
      some item := by
  refine getElem?_refresh _ _ position item ?_ ?_
  · rw [List.getElem?_append_left (List.getElem?_eq_some_iff.mp stands).1]
    exact stands
  · intro listed
    obtain ⟨stated, applied, same⟩ := List.mem_map.mp listed
    have other := apart stated (applications_subset _ _ applied)
    rw [(Item.isSame_iff item stated).mpr same.symm] at other
    cases other

/-- How items are sorted into the files of a tree and those that are left out. -/
structure SortedInto (items : List Item) (tree : FilterTree)
    (skipped : List (String × SkipReason)) : Prop where
  /-- An item that is a file with a path has the place that its filter names, or else the root. It
  is left out for the sake of the filters above that place or of its name, or it is filed there. -/
  files : ∀ item ∈ items, item.isFile = true →
    ∃ place, place < tree.size ∧ locate tree FilterTree.root item.filterPath = some place ∧
      item.outcome tree =
        match (inheritedSkipReason? tree place).or (skipReason? (Path.normal item.path)) with
        | some reason => .leftOut (Path.normal item.path) reason
        | none => .filed place item.entry
  /-- Nothing becomes of the other items. -/
  others : ∀ item ∈ items, item.isFile = false → item.outcome tree = .nothing
  /-- The nodes hold what is filed there, in order, and nothing else. -/
  filed : ∀ place, tree.filesAt place =
    (items.map (·.outcome tree)).filterMap (·.filedAt? place)
  /-- What is left out is skipped, in order, and nothing else. -/
  leftOut : skipped = (items.map (·.outcome tree)).filterMap (·.leftOut?)

theorem sortedInto_treeOfItems (items : List Item) :
    SortedInto items (treeOfItems items).value (leftOut (treeOfItems items).notes) := by
  obtain ⟨placed, accounts⟩ := treeOfItems_accounts items
  constructor
  · intro item listed isFile
    obtain ⟨place, inside, located⟩ := placed item listed isFile
    refine ⟨place, inside, located, ?_⟩
    rw [Item.outcome, if_pos isFile, located]
    rfl
  · intro item listed noFile
    rw [Item.outcome, noFile]
    rfl
  · intro place
    have filed := accounts.filed place
    rwa [FilterTree.filesAt_empty, List.nil_append] at filed
  · exact accounts.leftOut

/-- What becomes of the items that a document and its companion state. The merged items are those of
the document, and behind them those of the companion that are new when their group comes; an item of
the document that no item of the companion is the same as stays what it is. Every merged item comes
to what its filter and its name make of it, once: it is filed, left out, or nothing becomes of
it. -/
theorem readProjects_items (document : Element) (companion : Option Element)
    (fallback : String) :
    if document.name = "Project" then
      ∃ (known : List Item) (groups : List (List Item)) (merged : List Item) (project : Project),
        List.Forall₂ States (statingElements document) known ∧
        List.Forall₂ (List.Forall₂ States) (companionElements companion) groups ∧
        merged = refresh (applications known groups) (known ++ additions known groups) ∧
        merged.map (fun item => (item.kind, item.path)) =
          (known ++ additions known groups).map (fun item => (item.kind, item.path)) ∧
        (∀ (position : Nat) (item : Item), known[position]? = some item →
          (∀ stated ∈ groups.flatten, item.isSame stated = false) →
          merged[position]? = some item) ∧
        (readProjects document companion fallback).value = [project] ∧
        project.filters = (treeOfItems merged).value ∧
        SortedInto merged project.filters
          (leftOut (readProjects document companion fallback).notes)
    else
      (readProjects document companion fallback).value = [] ∧
        leftOut (readProjects document companion fallback).notes = [] := by
  split
  · next isProject =>
    obtain ⟨project, value, filters, notes⟩ :=
      readProjects_eq document document companion fallback (if_pos isProject)
    rw [mergedItems_eq] at filters notes
    refine ⟨_, _, _, project, stated_primaryItems document, stated_groupsOf companion, rfl,
      labels_refresh _ _, fun position item stands apart => getElem?_merged stands apart, value,
      filters, ?_⟩
    rw [notes, filters]
    exact sortedInto_treeOfItems _
  · next other =>
    have none : projectElement? document = none := if_neg other
    rw [readProjects, none]
    exact ⟨rfl, by simp [leftOut, Note.leftOut?]⟩

/-- A project file that states a source file. -/
def sourceAlone : Element :=
  .mk "Project" [] "" [
    .mk "ItemGroup" [] "" [
      .mk "ClCompile" [⟨"Include", "./A.cpp"⟩] "" [.mk "ExcludedFromBuild" [] "true" []]]]

/-- A companion that puts the file into a filter, and states another file. -/
def filterBeside : Element :=
  .mk "Project" [] "" [
    .mk "ItemGroup" [] "" [.mk "Filter" [⟨"Include", "Src"⟩] "" []],
    .mk "ItemGroup" [] "" [
      .mk "ClCompile" [⟨"Include", "a.cpp"⟩] "" [.mk "Filter" [] " Src " []],
      .mk "None" [⟨"Include", "b.lib"⟩] "" []]]

/-- The file that both state is filed once, in the filter of the companion and as that tells it; the
library is left out. -/
theorem readProjects_items_beside :
    ∃ project, (readProjects sourceAlone (some filterBeside) "p").value = [project] ∧
      locate project.filters FilterTree.root ["Src"] = some 1 ∧
      project.filters.filesAt 1 = [{ path := "A.cpp" }] ∧
      leftOut (readProjects sourceAlone (some filterBeside) "p").notes =
        [("b.lib", .librarySource)] := by
  have holds := readProjects_items sourceAlone (some filterBeside) "p"
  rw [if_pos (by decide)] at holds
  obtain ⟨known, groups, merged, project, states, statesToo, same, -, -, value, filters, sorted⟩ :=
    holds
  rw [forall₂_states_iff] at states
  rw [forall₂_iff_map_eq forall₂_states_iff] at statesToo
  subst states statesToo same
  refine ⟨project, value, ?_, ?_, ?_⟩
  · rw [filters]
    decide +kernel
  · rw [filters]
    decide +kernel
  · rw [sorted.leftOut, filters]
    decide +kernel

end Documents

end ProjectScribe.Reading.ElementFormat
