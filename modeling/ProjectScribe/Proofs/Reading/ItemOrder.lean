import ProjectScribe.Proofs.Reading.HeldBackFiles

/-!
# The order of items

The tree of items numbers its filters in the order in which items name them, and files stand in a
filter in the order in which items state them. Apart from that the order of items is of no account,
as long as no two items state one filter: a filter has one place for its path, it says what its one
item says, and what becomes of a file depends on the item of the file and on what the filters along
its path say.
-/
namespace ProjectScribe

namespace FilterTree

/-- The files of a tree, each with the path of its filter without case. -/
def filesByPath (tree : FilterTree) : List (String × FileEntry) :=
  (List.range tree.size).flatMap fun place =>
    (tree.filesAt place).map (Text.lower (tree.pathOf place), ·)

/-- The files of a tree are those with paths, without the paths. -/
theorem map_snd_filesByPath (tree : FilterTree) : tree.filesByPath.map (·.2) = tree.files := by
  have unplaced : ∀ place, ((tree.filesAt place).map (Text.lower (tree.pathOf place), ·)).map
      (·.2) = tree.filesAt place := fun place => by rw [List.map_map]; exact List.map_id _
  rw [filesByPath, List.map_flatMap, List.flatMap_congr fun place _ => unplaced place,
    files_eq_flatMap]

/-- What the filters of a tree say, each with its path without case: the extensions, and whether the
files are tracked. -/
def filtersByPath (tree : FilterTree) : List (String × Option (List String) × Bool) :=
  (List.range tree.size).filterMap fun place =>
    (tree.node? place).map fun node =>
      (Text.lower (tree.pathOf place), node.extensions, node.isTracked)

/-- The keys of all places of a tree. -/
def keys (tree : FilterTree) : List (List String) := (List.range tree.size).map tree.keyAt

/-- Where siblings are apart, no two places have one key. -/
theorem Shaped.nodup_keys {tree : FilterTree} (shaped : tree.Shaped) (apart : tree.SiblingsApart) :
    tree.keys.Nodup := by
  refine List.Nodup.map_on (fun first inside second insideToo same => ?_) List.nodup_range
  exact shaped.eq_of_keyAt apart (List.mem_range.mp inside) (List.mem_range.mp insideToo) same

end FilterTree

namespace Reading

/-- Two readings of a project with the same files in the same filters, the same files left out, the
same filters, and build units in both or in neither. Their orders may differ, and so may the case
of the paths of filters. -/
structure BuildsSame (first second : Reading Project) : Prop where
  files : first.value.filters.filesByPath.Perm second.value.filters.filesByPath
  leftOut : (leftOut first.notes).Perm (leftOut second.notes)
  filters : first.value.filters.filtersByPath.Perm second.value.filters.filtersByPath
  buildUnits : first.value.hasBuildUnits = second.value.hasBuildUnits

namespace ElementFormat

/-- Filter items of which no two have one path, up to case and separators. -/
def StatedOnce (filters : List Item) : Prop :=
  filters.Pairwise fun first second => filterKey first.path ≠ filterKey second.path

section Saying

variable {filters others : List Item}

/-- What filters say does not depend on the order of the items that state them. -/
theorem lastSaid_perm (perm : filters.Perm others) (once : StatedOnce filters) :
    lastSaid filters = lastSaid others := by
  have onceToo : StatedOnce others := (perm.pairwise_iff fun apart => apart.symm).mp once
  funext key name
  apply Option.ext
  intro value
  rw [lastSaid_eq_some_iff once, lastSaid_eq_some_iff onceToo]
  simp only [perm.mem_iff]

/-- Nor do the chains of filters around files. -/
theorem chain_perm (perm : filters.Perm others) (once : StatedOnce filters) (item : Item) :
    item.chain filters = item.chain others := by
  have along : ∀ key names, markingsFrom filters key names = markingsFrom others key names := by
    intro key names
    induction names generalizing key with
    | nil => rfl
    | cons name rest inductionHypothesis =>
      rw [markingsFrom, markingsFrom, inductionHypothesis, trackedSaid, trackedSaid,
        lastSaid_perm perm once]
  exact along [] item.filterPath

end Saying

section Trees

variable {tree other : FilterTree} {wanted wantedToo : List (List String)}
  {filters filtersToo : List Item}

/-- Keys lead on in whatever order they are wanted. -/
theorem leads_perm (perm : wanted.Perm wantedToo) (key : List String) :
    Leads wanted key ↔ Leads wantedToo key := by
  simp only [Leads, perm.mem_iff]

/-- Trees for the same keys have the same places, by their keys. -/
theorem Reflects.keys_perm (reflects : Reflects tree wanted filters)
    (reflectsToo : Reflects other wantedToo filtersToo) (perm : wanted.Perm wantedToo) :
    tree.keys.Perm other.keys := by
  rw [List.perm_ext_iff_of_nodup (reflects.grown.shaped.nodup_keys reflects.apart)
    (reflectsToo.grown.shaped.nodup_keys reflectsToo.apart)]
  intro key
  simp only [FilterTree.keys, List.mem_map, List.mem_range]
  rw [reflects.places, reflectsToo.places, leads_perm perm]

/-- What the filters of a tree say is what items say, key by key. -/
theorem Reflects.filtersByPath_eq (reflects : Reflects tree wanted filters) :
    tree.filtersByPath = tree.keys.map fun key =>
      ("\\".intercalate key, extensionsSaid filters key, trackedSaid filters key) := by
  rw [FilterTree.filtersByPath, FilterTree.keys, List.map_map, ← List.filterMap_eq_map]
  apply List.filterMap_congr
  intro place listed
  obtain ⟨node, stands⟩ := tree.exists_node? place (List.mem_range.mp listed)
  obtain ⟨extensions, tracked⟩ := reflects.said place node stands
  rw [stands, Option.map_some, FilterTree.lower_pathOf, extensions, tracked]
  rfl

end Trees

section Items

/-- The file that is filed for an item, with the path of its filter, as the verdict on its visit
says. -/
def filedAs (filters : List Item) (item : Item) : Option (String × FileEntry) :=
  (visitTo? filters item).bind fun visit =>
    if visit.verdict innermostReason? = none then
      some ("\\".intercalate (item.filterPath.map Text.lower), item.entry)
    else none

/-- The record of an item that is left out, as the verdict on its visit says. -/
def leftOutAs (filters : List Item) (item : Item) : Option (String × SkipReason) :=
  (visitTo? filters item).bind fun visit => (visit.verdict innermostReason?).map (visit.path, ·)

/-- The files of a tree of items are those of the items that are filed. -/
theorem filesByPath_perm (all : List Item) :
    (treeOfItems all).value.filesByPath.Perm (all.filterMap (filedAs (filterItems all))) := by
  have filed : ∀ place, (treeOfItems all).value.filesAt place =
      (all.map (·.outcome (treeOfItems all).value)).filterMap (·.filedAt? place) := by
    intro place
    have entered := (treeOfItems_accounts all).2.filed place
    rwa [FilterTree.filesAt_empty, List.nil_append] at entered
  have placed := (placed_perm _ _ filed).map fun entry =>
    (Text.lower ((treeOfItems all).value.pathOf entry.1), entry.2)
  rw [List.map_flatMap, List.map_filterMap, List.filterMap_map] at placed
  simp only [List.map_map] at placed
  refine placed.trans (.of_eq (List.filterMap_congr fun item listed => ?_))
  rw [Function.comp_apply, filedAs, visitTo?]
  cases isFile : item.isFile with
  | false =>
    rw [outcome_of_noFile _ item isFile]
    rfl
  | true =>
    obtain ⟨place, key, outcome⟩ := outcome_eq all item listed isFile
    rw [outcome]
    cases known : (visitTo (filterItems all) item).verdict innermostReason? with
    | some _ => simp [known, Outcome.filed?]
    | none => simp [known, Outcome.filed?, FilterTree.lower_pathOf, key]

/-- The files that a tree of items leaves out are those of the items that are left out. -/
theorem leftOut_treeOfItems (all : List Item) :
    leftOut (treeOfItems all).notes = all.filterMap (leftOutAs (filterItems all)) := by
  rw [(treeOfItems_accounts all).2.leftOut, List.filterMap_map]
  exact List.filterMap_congr fun item listed => (outcome_of_items all item listed).1

/-- The items of a project may come in any order, as long as no two of them state one filter: the
files of the project stand in the same filters, the same files are left out for the same reasons,
the filters say the same, and there are build units or there are none. -/
theorem finish_perm (fallback : String) (project : Project) {first second : List Item}
    (perm : first.Perm second) (once : StatedOnce (filterItems first)) :
    BuildsSame (finish fallback project first) (finish fallback project second) := by
  have permFilters : (filterItems first).Perm (filterItems second) := perm.filter _
  have visits : visitTo? (filterItems first) = visitTo? (filterItems second) := by
    funext item
    rw [visitTo?, visitTo?, visitTo, visitTo, chain_perm permFilters once]
  have files : (treeOfItems first).value.filesByPath.Perm
      (treeOfItems second).value.filesByPath := by
    have same : filedAs (filterItems first) = filedAs (filterItems second) := by
      funext item
      rw [filedAs, filedAs, visits]
    have moved := perm.filterMap (filedAs (filterItems first))
    exact (filesByPath_perm first).trans (moved.trans (same ▸ (filesByPath_perm second).symm))
  have reflects := treeOfItems_reflects first
  have reflectsToo := treeOfItems_reflects second
  have wanted : (wantedKeys first).Perm (wantedKeys second) :=
    (permFilters.map _).append (perm.flatMap_right _)
  refine ⟨files, ?_, ?_, ?_⟩
  · have same : leftOutAs (filterItems first) = leftOutAs (filterItems second) := by
      funext item
      rw [leftOutAs, leftOutAs, visits]
    simp only [finish, Reported.notes_bind, Reported.notes_pure, List.append_nil]
    rw [leftOut_treeOfItems, leftOut_treeOfItems, ← same]
    exact perm.filterMap _
  · change (treeOfItems first).value.filtersByPath.Perm (treeOfItems second).value.filtersByPath
    rw [reflects.filtersByPath_eq, reflectsToo.filtersByPath_eq]
    unfold extensionsSaid trackedSaid
    rw [lastSaid_perm permFilters once]
    exact (reflects.keys_perm reflectsToo wanted).map _
  · change (treeOfItems first).value.files.any FileEntry.isBuildUnit =
      (treeOfItems second).value.files.any FileEntry.isBuildUnit
    rw [← FilterTree.map_snd_filesByPath, ← FilterTree.map_snd_filesByPath]
    exact (files.map _).any_eq

/-- Files that stand before the items of their filters, or in a filter that no item states. -/
def scattered : List Item :=
  [⟨"ClCompile", "a.cpp", [⟨"Filter", "src/Sub"⟩]⟩,
    ⟨"Filter", "Src", [⟨"SourceControlFiles", "false"⟩]⟩,
    ⟨"ClCompile", "b.cpp", [⟨"Filter", "Other"⟩]⟩,
    ⟨"Filter", "SRC\\sub", [⟨"Extensions", "cpp;c"⟩]⟩]

/-- In reverse order they make another tree, but the same is built. -/
theorem finish_perm_scattered :
    (treeOfItems scattered).value ≠ (treeOfItems scattered.reverse).value ∧
      BuildsSame (finish "demo" {} scattered) (finish "demo" {} scattered.reverse) := by
  have once : StatedOnce (filterItems scattered) := by
    simp only [StatedOnce, scattered, filterItems]
    decide
  exact ⟨by decide, finish_perm "demo" {} scattered.reverse_perm.symm once⟩

end Items

end ElementFormat

end Reading

end ProjectScribe
