import ProjectScribe.Proofs.Reading.FilterItems
import ProjectScribe.Proofs.Reading.Slashes

/-!
# Files that filters hold back, in both formats

One format hands a reason down while it reads filters in filters; the other builds a tree from paths
first and looks for a reason on the way up from a file. Both leave out a file for the sake of its
filters exactly if one of the filters around it holds back its files, and otherwise for the sake of
its name. Of several filters the older format names the outermost, and the newer one the innermost.
-/
namespace ProjectScribe.Reading

open Xml (Element)

/-- Files are judged by a rule if each file that is visited is left out for the reason that the rule
gives, in order, or kept if it gives none, and no other files are left out or kept. -/
def Judged (gives : List Marking → SkipReason → Prop) (visits : List Visit)
    (records : List (String × SkipReason)) (kept : List String) : Prop :=
  ∃ verdict : Visit → Option SkipReason, Visit.FollowsRule gives verdict ∧
    records = visits.filterMap (fun visit => (verdict visit).map (visit.path, ·)) ∧
    kept.Perm ((visits.filter (verdict · = none)).map (·.path))

section Visits

variable {α β : Type}

/-- What is seen of a list can be seen of the visits in it, if each element shows what its visit
shows. -/
theorem filterMap_visits (list : List α) (visit? : α → Option Visit) (view : α → Option β)
    (shows : Visit → Option β) (same : ∀ a ∈ list, view a = (visit? a).bind shows) :
    list.filterMap view = (list.filterMap visit?).filterMap shows := by
  rw [List.filterMap_filterMap]
  exact List.filterMap_congr same

/-- The files that a verdict keeps. -/
theorem map_path_filter (visits : List Visit) (verdict : Visit → Option SkipReason) :
    (visits.filter (verdict · = none)).map (·.path) =
      visits.filterMap fun visit => if verdict visit = none then some visit.path else none := by
  rw [← List.filterMap_eq_map, List.filterMap_filter]
  apply List.filterMap_congr
  intro visit _
  by_cases free : verdict visit = none <;> simp [free]

end Visits

namespace AttributeFormat

/-- What a filter says about the files in it. -/
def markingOf (filter : Element) : Marking :=
  ⟨filter.valueOf "Name", (filter.value? "SourceControlFiles").all isYes⟩

mutual

/-- The chains of filters around the files that stand in an element, in the order in which the
files are listed. -/
def chainsOf (around : List Marking) : Element → List (List Marking)
  | .mk name attributes text children =>
    if name = "Filter" then
      chainsIn (around ++ [markingOf (.mk name attributes text children)]) children
    else if name = "File" then chainsIn around children ++ [around]
    else []

/-- The chains of filters around the files that stand in several elements. -/
def chainsIn (around : List Marking) : List Element → List (List Marking)
  | [] => []
  | entry :: rest => chainsOf around entry ++ chainsIn around rest

end

/-- Whether the reason that reading hands down to a file is that of the outermost filter around
it. -/
def HandedDown (file : ListedFile) (chain : List Marking) : Prop :=
  ∀ site, file.site = some site → site.skip = outermostReason? chain

mutual

/-- To each file in an element the reason of the outermost filter is handed down. -/
theorem handedDown_of (site : Option Site) (next : Nat) (around : List Marking)
    (handed : ∀ here, site = some here → here.skip = outermostReason? around) :
    ∀ element : Element,
      List.Forall₂ HandedDown (listedOf site next element) (chainsOf around element)
  | .mk name attributes text children => by
    simp only [listedOf, chainsOf]
    by_cases isFilter : name = "Filter"
    · rw [if_pos isFilter, if_pos isFilter]
      refine handedDown_in _ _ _ (fun inner stands => ?_) children
      obtain ⟨outer, isSite, below⟩ := Option.bind_eq_some_iff.mp stands
      rw [Site.inFilter] at below
      split at below
      · cases below
      · obtain rfl := Option.some.inj below
        rw [outermostReason?_concat, handed outer isSite]
        rfl
    · rw [if_neg isFilter, if_neg isFilter]
      by_cases isFile : name = "File"
      · rw [if_pos isFile, if_pos isFile]
        refine List.rel_append (handedDown_in _ _ _ (fun inner stands => ?_) children)
          (.cons handed .nil)
        obtain ⟨outer, isSite, below⟩ := Option.bind_eq_some_iff.mp stands
        rw [Site.belowFile] at below
        split at below
        · cases below
        · obtain rfl := Option.some.inj below
          exact handed outer isSite
      · rw [if_neg isFile, if_neg isFile]
        exact .nil

/-- To each file in several elements the reason of the outermost filter is handed down. -/
theorem handedDown_in (site : Option Site) (next : Nat) (around : List Marking)
    (handed : ∀ here, site = some here → here.skip = outermostReason? around) :
    ∀ elements : List Element,
      List.Forall₂ HandedDown (listedIn site next elements) (chainsIn around elements)
  | [] => by
    rw [listedIn, chainsIn]
    exact .nil
  | entry :: rest => by
    rw [listedIn, chainsIn]
    exact List.rel_append (handedDown_of site next around handed entry)
      (handedDown_in site (next + filtersOf entry) around handed rest)

end

/-- The visit to a listed file in a chain of filters, if reading comes to it and it has a path. -/
def visit? (listed : ListedFile × List Marking) : Option Visit :=
  if listed.1.site.isSome ∧ filePath listed.1.element ≠ "" then
    some ⟨listed.2, filePath listed.1.element⟩
  else none

/-- The files of a project with the filters around them. -/
def chainedFiles (project : Element) : List (ListedFile × List Marking) :=
  (listedFiles project).zip (chainsIn [] (fileEntries project.children))

/-- The files of a document to which reading comes, with the filters around them. -/
def documentVisits (document : Element) : List Visit :=
  (projectElements document).flatMap fun project => (chainedFiles project).filterMap visit?

/-- What becomes of a file is what the verdict on its visit says. -/
theorem outcome_of_handedDown (file : ListedFile) (chain : List Marking)
    (handed : HandedDown file chain) :
    file.outcome.leftOut? = (visit? (file, chain)).bind (fun visit =>
        (visit.verdict outermostReason?).map (visit.path, ·)) ∧
      file.outcome.filed?.map (·.2.path) = (visit? (file, chain)).bind fun visit =>
        if visit.verdict outermostReason? = none then some visit.path else none := by
  rw [ListedFile.outcome, visit?]
  cases stands : file.site with
  | none => exact ⟨rfl, rfl⟩
  | some site =>
    by_cases pathless : filePath file.element = ""
    · simp [pathless, Outcome.leftOut?, Outcome.filed?]
    · have reason : site.reason? file.element =
          (⟨chain, filePath file.element⟩ : Visit).verdict outermostReason? := by
        rw [Site.reason?, handed site stands, Visit.verdict]
      cases known : (⟨chain, filePath file.element⟩ : Visit).verdict outermostReason? with
      | some _ => simp [reason, known, pathless, Outcome.leftOut?, Outcome.filed?]
      | none => simp [reason, known, pathless, Outcome.leftOut?, Outcome.filed?, path_statedFile]

/-- What becomes of the files of a project is what the verdicts on their visits say. -/
theorem outcomes_of_project (project : Element) {β : Type} (view : Outcome → Option β)
    (shows : Visit → Option β)
    (same : ∀ file chain, HandedDown file chain →
      view file.outcome = (visit? (file, chain)).bind shows) :
    ((listedFiles project).map (·.outcome)).filterMap view =
      ((chainedFiles project).filterMap visit?).filterMap shows := by
  have handed := handedDown_in (some ⟨FilterTree.root, none, false⟩) FilterTree.empty.size []
    (fun here stands => by rw [← Option.some.inj stands]; rfl) (fileEntries project.children)
  have lengths : (listedFiles project).length ≤
      (chainsIn [] (fileEntries project.children)).length := Nat.le_of_eq handed.length_eq
  have listed : (chainedFiles project).map Prod.fst = listedFiles project :=
    List.map_fst_zip lengths
  rw [← listed, List.map_map, List.filterMap_map]
  refine filterMap_visits (chainedFiles project) visit? _ shows fun ⟨file, chain⟩ among => ?_
  exact same file chain (List.forall₂_zip handed among)

/-- The files of the older format are judged by the outermost of the filters that hold them back. -/
theorem judged (document : Element) :
    Judged OutermostGives (documentVisits document) (leftOut (readProjects document).notes)
      (((readProjects document).value.flatMap (·.filters.files)).map (·.path)) := by
  refine ⟨Visit.verdict outermostReason?, ?_, ?_, ?_⟩
  · exact Visit.followsRule_verdict outermostReason?_eq_some_iff outermostReason?_eq_none_iff
      fun chain reason ⟨_, _, _, _, gives, _⟩ => gives.isOfFilters
  · rw [readProjects, Reported.notes_forEach, leftOut_flatMap, documentVisits,
      List.filterMap_flatMap]
    apply List.flatMap_congr
    intro project _
    have read := (readProject_adds project).accounts.leftOut
    rw [Reported.notes_map] at read
    rw [read]
    exact outcomes_of_project project _ _ fun file chain handed =>
      (outcome_of_handedDown file chain handed).1
  · rw [readProjects, Reported.value_forEach, List.flatMap_map, List.map_flatMap, map_path_filter,
      documentVisits, List.filterMap_flatMap]
    apply List.Perm.flatMap_left
    intro project _
    have filed : ∀ place, (readProject project).value.filters.filesAt place =
        ((listedFiles project).map (·.outcome)).filterMap (·.filedAt? place) := by
      intro place
      have read := (readProject_adds project).accounts.filed place
      rwa [FilterTree.filesAt_empty, List.nil_append] at read
    have perm := (files_perm _ _ filed).map (·.path)
    rw [List.map_map, List.map_filterMap] at perm
    rwa [← outcomes_of_project project (fun outcome => outcome.filed?.map (·.2.path)) _
      fun file chain handed => (outcome_of_handedDown file chain handed).2]

end AttributeFormat

namespace ElementFormat

/-- The visit to an item that is a file, with the filters along its path as filter items mark
them. -/
def visitTo (filters : List Item) (item : Item) : Visit :=
  ⟨item.chain filters, Path.normal item.path⟩

/-- The file items of a project file and its companion, with the filters around them. -/
def documentVisits (document : Element) (companion : Option Element) : List Visit :=
  match projectElement? document with
  | none => []
  | some element =>
    let merged := mergedItems element.children companion
    (merged.filter (·.isFile)).map (visitTo (filterItems merged))

/-- An item that is a file is left out if the verdict on its visit says so, and otherwise filed at a
place with the key of its filter. -/
theorem outcome_eq (all : List Item) (item : Item) (listed : item ∈ all)
    (isFile : item.isFile = true) :
    ∃ place, (treeOfItems all).value.keyAt place = item.filterPath.map Text.lower ∧
      item.outcome (treeOfItems all).value =
        match (visitTo (filterItems all) item).verdict innermostReason? with
        | some reason => .leftOut (Path.normal item.path) reason
        | none => .filed place item.entry := by
  have reflects := treeOfItems_reflects all
  obtain ⟨place, inside, found⟩ := (treeOfItems_accounts all).1 item listed isFile
  have key := keyAt_locate reflects.grown.shaped found
  rw [FilterTree.keyAt_root, List.nil_append] at key
  have reason : item.reason? (treeOfItems all).value place =
      (visitTo (filterItems all) item).verdict innermostReason? := by
    rw [Item.reason?, reflects.inheritedSkipReason?_eq inside item.filterPath key]
    rfl
  refine ⟨place, key, ?_⟩
  cases known : (visitTo (filterItems all) item).verdict innermostReason? with
  | some _ => simp [Item.outcome, isFile, found, reason, known]
  | none => simp [Item.outcome, isFile, found, reason, known]

/-- Nothing becomes of an item that is no file. -/
theorem outcome_of_noFile (tree : FilterTree) (item : Item) (noFile : item.isFile = false) :
    item.outcome tree = .nothing := by
  rw [Item.outcome, noFile]
  rfl

/-- The visit to an item, if it is a file. -/
def visitTo? (filters : List Item) (item : Item) : Option Visit :=
  if item.isFile then some (visitTo filters item) else none

/-- The visits to the files among items. -/
theorem map_visitTo (filters items : List Item) :
    (items.filter (·.isFile)).map (visitTo filters) = items.filterMap (visitTo? filters) := by
  rw [← List.filterMap_eq_map, List.filterMap_filter]
  apply List.filterMap_congr
  intro item _
  rw [visitTo?]
  cases item.isFile <;> rfl

/-- What becomes of an item is what the verdict on its visit says. -/
theorem outcome_of_items (all : List Item) (item : Item) (listed : item ∈ all) :
    (item.outcome (treeOfItems all).value).leftOut? =
        (visitTo? (filterItems all) item).bind (fun visit =>
          (visit.verdict innermostReason?).map (visit.path, ·)) ∧
      (item.outcome (treeOfItems all).value).filed?.map (·.2.path) =
        (visitTo? (filterItems all) item).bind fun visit =>
          if visit.verdict innermostReason? = none then some visit.path else none := by
  rw [visitTo?]
  cases isFile : item.isFile with
  | false =>
    rw [outcome_of_noFile _ item isFile]
    exact ⟨rfl, rfl⟩
  | true =>
    obtain ⟨place, -, outcome⟩ := outcome_eq all item listed isFile
    have path : (visitTo (filterItems all) item).path = Path.normal item.path := rfl
    rw [outcome]
    cases known : (visitTo (filterItems all) item).verdict innermostReason? with
    | some _ => simp [known, path, Outcome.leftOut?, Outcome.filed?]
    | none => simp [known, path, Outcome.leftOut?, Outcome.filed?, Item.path_entry]

/-- The files of the newer format are judged by the innermost of the filters that hold them back. -/
theorem judged (document : Element) (companion : Option Element) (fallback : String) :
    Judged InnermostGives (documentVisits document companion)
      (leftOut (readProjects document companion fallback).notes)
      (((readProjects document companion fallback).value.flatMap (·.filters.files)).map
        (·.path)) := by
  refine ⟨Visit.verdict innermostReason?, ?_, ?_⟩
  · exact Visit.followsRule_verdict innermostReason?_eq_some_iff innermostReason?_eq_none_iff
      fun chain reason ⟨_, _, _, _, gives, _⟩ => gives.isOfFilters
  rw [documentVisits]
  cases found : projectElement? document with
  | none =>
    rw [readProjects, found]
    refine ⟨?_, .refl _⟩
    simp [leftOut, Note.leftOut?]
  | some element =>
    obtain ⟨project, value, filters, notes⟩ :=
      readProjects_eq document element companion fallback found
    dsimp only
    generalize mergedItems element.children companion = merged at filters notes ⊢
    obtain ⟨-, accounts⟩ := treeOfItems_accounts merged
    constructor
    · rw [notes, accounts.leftOut, List.filterMap_map, map_visitTo]
      exact filterMap_visits merged _ _ _ fun item listed => (outcome_of_items merged item listed).1
    · have filed : ∀ place, (treeOfItems merged).value.filesAt place =
          (merged.map (·.outcome (treeOfItems merged).value)).filterMap (·.filedAt? place) := by
        intro place
        have entered := accounts.filed place
        rwa [FilterTree.filesAt_empty, List.nil_append] at entered
      have perm := (files_perm _ _ filed).map (·.path)
      rw [List.map_map, List.map_filterMap, List.filterMap_map] at perm
      rw [value, List.flatMap_singleton, filters, map_path_filter, map_visitTo,
        ← filterMap_visits merged _ _ _ fun item listed => (outcome_of_items merged item listed).2]
      exact perm

end ElementFormat

/-- Both formats leave out files by one rule. A file that is visited is left out for the sake of its
filters exactly if one of the filters around it holds generated files or is not tracked, and
otherwise exactly if its name gives a reason. Generated files come before files that are not
tracked; of several filters the older format gives the reason of the outermost, and the newer one
that of the innermost. -/
theorem files_judged :
    (∀ document, Judged OutermostGives (AttributeFormat.documentVisits document)
      (leftOut (AttributeFormat.readProjects document).notes)
      (((AttributeFormat.readProjects document).value.flatMap (·.filters.files)).map (·.path))) ∧
    ∀ document companion fallback,
      Judged InnermostGives (ElementFormat.documentVisits document companion)
        (leftOut (ElementFormat.readProjects document companion fallback).notes)
        (((ElementFormat.readProjects document companion fallback).value.flatMap
          (·.filters.files)).map (·.path)) :=
  ⟨AttributeFormat.judged, ElementFormat.judged⟩

end ProjectScribe.Reading
