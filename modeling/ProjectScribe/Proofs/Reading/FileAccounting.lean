import Mathlib.Data.List.Forall2
import ProjectScribe.Proofs.Reading.AttributeFiles
import ProjectScribe.Proofs.Reading.AttributeSteps

/-!
# Accounting for the files of the older format

Reading filters and files adds headings behind those of a tree, files behind those of its nodes,
and records of files that are left out. What it adds is what the listing of the elements says,
and nothing else: so every listed file is accounted for as its outcome says. No file with a path
is lost exactly if reading comes to all of them and no path is empty in its normal form.
-/
namespace ProjectScribe.Reading.AttributeFormat

open Xml (Attribute Element)

/-- A change of what is in one node leaves all headings. -/
theorem map_heading_modify (nodes : List FilterNode) (place : Nat)
    (change : FilterNode → FilterNode) (keeps : ∀ node, heading (change node) = heading node) :
    (nodes.modify place change).map heading = nodes.map heading := by
  refine List.ext_getElem? fun other => ?_
  simp only [List.getElem?_map, List.getElem?_modify]
  cases nodes[other]? with
  | none => rfl
  | some node =>
    by_cases same : place = other
    · simp [same, keeps]
    · simp [same]

/-- A reading that adds headings to a tree and accounts for listed files. -/
structure Adds (tree : FilterTree) (reading : Reading FilterTree) (headings : List FilterNode)
    (files : List ListedFile) : Prop where
  grown : tree.Grown → reading.value.Grown
  headings : reading.value.nodes.map heading = tree.nodes.map heading ++ headings
  accounts : Accounts tree reading (files.map (·.outcome))

namespace Adds

variable {tree : FilterTree} {reading : Reading FilterTree} {headings more : List FilterNode}
  {files others : List ListedFile}

/-- A tree gets as many nodes as headings are added. -/
theorem size (adds : Adds tree reading headings files) :
    reading.value.size = tree.size + headings.length := by
  have lengths := congrArg List.length adds.headings
  simpa [FilterTree.size] using lengths

/-- What two steps in a row add. -/
theorem bind {next : FilterTree → Reading FilterTree} (first : Adds tree reading headings files)
    (second : Adds reading.value (next reading.value) more others) :
    Adds tree (reading >>= next) (headings ++ more) (files ++ others) where
  grown grown := second.grown (first.grown grown)
  headings := by
    rw [Reported.value_bind, second.headings, first.headings, List.append_assoc]
  accounts := by
    rw [List.map_append]
    exact first.accounts.bind second.accounts

/-- What a reading adds to a tree that a change has left. -/
theorem trans {between : FilterTree} (change : Adds tree (pure between) headings files)
    (further : Adds between reading more others) :
    Adds tree reading (headings ++ more) (files ++ others) := by
  have both : Adds tree (pure between >>= fun _ => reading) (headings ++ more) (files ++ others) :=
    bind change further
  exact both

/-- What two steps add of which the first hands on more than a tree. -/
theorem bindVia {α : Type} {view : α → FilterTree} {step : Reading α}
    {next : α → Reading FilterTree} (first : Adds tree (view <$> step) headings files)
    (second : Adds (view step.value) (next step.value) more others) :
    Adds tree (step >>= next) (headings ++ more) (files ++ others) := by
  have both : Adds tree ((view <$> step) >>= fun _ => next step.value)
      (headings ++ more) (files ++ others) := bind first second
  rw [bind_map_left] at both
  exact ⟨both.grown, both.headings, both.accounts.filed, both.accounts.leftOut⟩

/-- A quiet step in front adds nothing. -/
theorem afterQuiet {α : Type} {first : Reading α} {next : α → Reading FilterTree}
    (quiet : Quiet first) (adds : Adds tree (next first.value) headings files) :
    Adds tree (first >>= next) headings files :=
  ⟨adds.grown, adds.headings, adds.accounts.afterQuiet quiet⟩

/-- A quiet reading that leaves the tree accounts for files of which nothing becomes. -/
theorem ofNothing (same : reading.value = tree) (quiet : Quiet reading)
    (nothing : ∀ file ∈ files, file.outcome = .nothing) : Adds tree reading [] files where
  grown := by
    rw [same]
    exact id
  headings := by rw [same, List.append_nil]
  accounts := by
    refine .ofNothing (fun place => by rw [same]) quiet fun outcome listed => ?_
    obtain ⟨file, stated, rfl⟩ := List.mem_map.mp listed
    exact nothing file stated

/-- A filter that is added brings its heading. -/
theorem addChild (tree : FilterTree) (place : Nat) (node : FilterNode) (inside : place < tree.size)
    (childless : node.children = []) (empty : node.files = []) :
    Adds tree (pure (tree.addChild place node)) [heading { node with parent := some place }] []
    where
  grown grown := grown.addChild place node inside childless
  headings := by
    refine (map_heading_modify _ place _ ?_).trans List.map_append
    exact fun _ => rfl
  accounts := by
    refine .ofNothing (fun other => ?_) (quiet_pure _) (by simp)
    exact tree.filesAt_addChild_of_empty place other node inside empty

/-- A file that is added is filed at its place. -/
theorem addFile (tree : FilterTree) (place : Nat) (file : ListedFile) (entry : FileEntry)
    (inside : place < tree.size) (outcome : file.outcome = .filed place entry) :
    Adds tree (pure (tree.addFile place entry)) [] [file] where
  grown grown := grown.addFile place entry
  headings := by
    refine (map_heading_modify _ place _ ?_).trans (List.append_nil _).symm
    exact fun _ => rfl
  accounts := by
    rw [List.map_singleton, outcome]
    exact .addFile tree place entry inside

/-- A file that is recorded as left out is not filed. -/
theorem skip (tree : FilterTree) (file : ListedFile) (path : String) (reason : SkipReason)
    (outcome : file.outcome = .leftOut path reason) :
    Adds tree (Reported.note (.skipped path reason) >>= fun _ => pure tree) [] [file] where
  grown := id
  headings := (List.append_nil _).symm
  accounts := by
    rw [List.map_singleton, outcome]
    exact .skip tree path reason

/-- Of files to which reading does not come nothing becomes. -/
theorem unread (tree : FilterTree) (next : Nat) (elements : List Element) :
    Adds tree (pure tree) [] (listedIn none next elements) :=
  .ofNothing rfl (quiet_pure tree) fun file listed => by
    rw [ListedFile.outcome, site_of_mem_listedIn next elements file listed]

end Adds

section Parts

/-- A filter is stated with nothing in it. -/
theorem statedFilter_isEmpty (element : Element) :
    (statedFilter element).children = [] ∧ (statedFilter element).files = [] := by
  have kept : ∀ (filter : FilterNode) (attributes : List Attribute),
      (Reported.fold readFilterAttribute filter attributes).value.children = filter.children ∧
        (Reported.fold readFilterAttribute filter attributes).value.files = filter.files := by
    intro filter attributes
    induction attributes generalizing filter with
    | nil => exact ⟨rfl, rfl⟩
    | cons entry rest inductionHypothesis =>
      obtain ⟨children, files⟩ := readFilterAttribute_keeps filter entry
      obtain ⟨restChildren, restFiles⟩ :=
        inductionHypothesis (readFilterAttribute filter entry).value
      exact ⟨restChildren.trans children, restFiles.trans files⟩
  exact kept { name := element.valueOf "Name" } element.attributes

/-- The parts of a file tell its configurations, whatever else stands among them. -/
theorem value_readFileParts (place : Nat) (skip : Option SkipReason) (file : FileEntry)
    (tree : FilterTree) (parts : List Element) :
    (readFileParts place skip file tree parts).value.1 =
      (Reported.fold readFileConfiguration file
        (parts.filter (·.name = "FileConfiguration"))).value := by
  induction parts generalizing file tree with
  | nil =>
    rw [readFileParts]
    rfl
  | cons part rest inductionHypothesis =>
    rw [readFileParts]
    by_cases configured : part.name = "FileConfiguration"
    · rw [if_pos configured, Reported.value_bind, inductionHypothesis,
        List.filter_cons_of_pos (by simpa using configured)]
      rfl
    · rw [if_neg configured, List.filter_cons_of_neg (by simpa using configured)]
      split
      · rw [Reported.value_bind, inductionHypothesis]
      · rw [Reported.value_bind, inductionHypothesis]

end Parts

section Reading

variable (place : Nat) (skip : Option SkipReason) (tree : FilterTree) (element : Element)

/-- How a filter is read. -/
theorem readEntry_filter (isFilter : element.name = "Filter") :
    readEntry place skip tree element =
      Reported.fold readFilterAttribute { name := element.valueOf "Name" } element.attributes >>=
        fun filter => readFilter tree.size (skip.or (ownSkipReason? element))
          (tree.addChild place filter) element.children := by
  obtain ⟨name, attributes, text, children⟩ := element
  rw [readEntry]
  exact if_pos isFilter

/-- How a file is read. -/
theorem readEntry_file (isFile : element.name = "File") :
    readEntry place skip tree element =
      if filePath element = "" then
        Reported.note (.unknownElement .vcproj "Filter" "File without RelativePath") >>=
          fun _ => pure tree
      else match skip.or (skipReason? (filePath element)) with
        | some reason =>
          Reported.note (.skipped (filePath element) reason) >>= fun _ => pure tree
        | none => do
          let _ ← Reported.forEach
            (fun (entry : Attribute) => noteUnlessKnown fileAttributes "File" entry.name)
            element.attributes
          let (file, tree) ←
            readFileParts place skip { path := filePath element } tree element.children
          Reported.noteIf file.isExcluded (.excluded (filePath element))
          return tree.addFile place file := by
  obtain ⟨name, attributes, text, children⟩ := element
  have isFile : name = "File" := isFile
  subst isFile
  rw [readEntry, if_neg (by decide), if_pos rfl]
  rfl

/-- A filter is added as it is listed if what stands in it is. -/
theorem readEntry_filter_adds (inside : place < tree.size) (isFilter : element.name = "Filter")
    (filled : Adds (tree.addChild place (statedFilter element))
      (readFilter tree.size (skip.or (ownSkipReason? element))
        (tree.addChild place (statedFilter element)) element.children)
      (headingsIn tree.size (tree.size + 1) element.children)
      (listedIn (some ⟨tree.size, skip.or (ownSkipReason? element), false⟩) (tree.size + 1)
        element.children)) :
    Adds tree (readEntry place skip tree element) (headingsOf place tree.size element)
      (listedOf (some ⟨place, skip, false⟩) tree.size element) := by
  obtain ⟨childless, empty⟩ := statedFilter_isEmpty element
  rw [readEntry_filter place skip tree element isFilter, listedOf_filter _ _ element isFilter,
    headingsOf_filter place _ element isFilter]
  refine .afterQuiet (quiet_fold _ _ _ fun state entry _ =>
    quiet_readFilterAttribute state entry) ?_
  have opened := Adds.addChild tree place (statedFilter element) inside childless empty
  exact opened.trans filled

/-- Where reading comes to a file but not to what stands in it, the file alone is accounted for. -/
theorem closed_file_adds (site : Site) (next : Nat) (reading : Reading FilterTree)
    (isFile : element.name = "File") (closed : site.belowFile element = none)
    (itself : Adds tree reading [] [⟨some site, element⟩]) :
    Adds tree reading [] (listedOf (some site) next element) := by
  rw [listedOf_file _ _ element isFile, Option.bind_some, closed]
  exact (Adds.unread tree next element.children).trans itself

/-- A file that is not left out is filed behind the files that stand in it. -/
theorem open_file_adds (inFile : Bool) (inside : place < tree.size) (files : List ListedFile)
    (path : filePath element ≠ "") (kept : skip.or (skipReason? (filePath element)) = none)
    (parted : Adds tree
      (Prod.snd <$> readFileParts place skip { path := filePath element } tree element.children) []
      files) :
    Adds tree
      (do
        let _ ← Reported.forEach
          (fun (entry : Attribute) => noteUnlessKnown fileAttributes "File" entry.name)
          element.attributes
        let (file, tree) ←
          readFileParts place skip { path := filePath element } tree element.children
        Reported.noteIf file.isExcluded (.excluded (filePath element))
        return tree.addFile place file)
      [] (files ++ [⟨some ⟨place, skip, inFile⟩, element⟩]) := by
  have stated := value_readFileParts place skip { path := filePath element } tree element.children
  have outcome : (ListedFile.mk (some ⟨place, skip, inFile⟩) element).outcome =
      .filed place (readFileParts place skip { path := filePath element } tree
        element.children).value.1 := by
    rw [stated]
    simp [ListedFile.outcome, path, Site.reason?, kept, statedFile]
  have still : place < (readFileParts place skip { path := filePath element } tree
      element.children).value.2.size := by
    have size := parted.size
    simp only [Reported.value_map, List.length_nil, Nat.add_zero] at size
    omega
  have filed := Adds.addFile _ place _ _ still outcome
  refine .afterQuiet (quiet_forEach _ _ fun entry _ => quiet_noteUnlessKnown _ _ _)
    (parted.bindVia (.afterQuiet ?_ filed))
  rw [quiet_noteIf]
  intro _
  rfl

/-- A file is added as it is listed if its parts are. -/
theorem readEntry_file_adds (inFile : Bool) (next : Nat) (inside : place < tree.size)
    (isFile : element.name = "File")
    (parted : Adds tree
      (Prod.snd <$> readFileParts place skip { path := filePath element } tree element.children) []
      (listedIn (some ⟨place, skip, true⟩) next element.children)) :
    Adds tree (readEntry place skip tree element) (headingsOf place next element)
      (listedOf (some ⟨place, skip, inFile⟩) next element) := by
  have notFilter : element.name ≠ "Filter" := isFile.trans_ne (by decide)
  rw [readEntry_file place skip tree element isFile, headingsOf_other place next element notFilter]
  by_cases pathless : filePath element = ""
  · rw [if_pos pathless]
    apply closed_file_adds tree element _ next _ isFile
    · exact if_pos (.inl pathless)
    · exact .ofNothing rfl (by simp [Note.leftOut?]) (by simp [ListedFile.outcome, pathless])
  · rw [if_neg pathless]
    cases known : skip.or (skipReason? (filePath element)) with
    | some reason =>
      apply closed_file_adds tree element _ next _ isFile
      · exact if_pos (.inr (by simp [Site.reason?, known]))
      · apply Adds.skip tree _ (filePath element) reason
        simp [ListedFile.outcome, pathless, Site.reason?, known]
    | none =>
      have opened : Site.belowFile ⟨place, skip, inFile⟩ element = some ⟨place, skip, true⟩ :=
        if_neg (by simp [pathless, Site.reason?, known])
      rw [listedOf_file _ _ element isFile, Option.bind_some, opened]
      exact open_file_adds place skip tree element inFile inside _ pathless known parted

mutual

/-- What stands in a filter is added as it is listed. -/
theorem readFilter_adds (place : Nat) (skip : Option SkipReason) (tree : FilterTree)
    (inside : place < tree.size) :
    ∀ elements : List Element, Adds tree (readFilter place skip tree elements)
      (headingsIn place tree.size elements)
      (listedIn (some ⟨place, skip, false⟩) tree.size elements)
  | [] => by
    rw [readFilter, headingsIn, listedIn]
    exact .ofNothing rfl (quiet_pure tree) (by simp)
  | entry :: rest => by
    rw [readFilter, headingsIn, listedIn]
    have first := readEntry_adds place skip false tree.size tree inside entry fun _ => ⟨rfl, rfl⟩
    -- The tree has grown by as many nodes as the listing counts filters, so the places go on.
    have size := first.size
    rw [length_headingsOf] at size
    have further := readFilter_adds place skip (readEntry place skip tree entry).value
      (by omega) rest
    rw [size] at further
    exact first.bind further

/-- A filter or a file is added as it is listed. Filters are read only outside of files. -/
theorem readEntry_adds (place : Nat) (skip : Option SkipReason) (inFile : Bool) (next : Nat)
    (tree : FilterTree) (inside : place < tree.size) :
    ∀ element : Element, (element.name = "Filter" → inFile = false ∧ next = tree.size) →
      Adds tree (readEntry place skip tree element) (headingsOf place next element)
        (listedOf (some ⟨place, skip, inFile⟩) next element)
  | .mk name attributes text children, outside => by
    by_cases isFilter : name = "Filter"
    · obtain ⟨rfl, rfl⟩ := outside isFilter
      have filled := readFilter_adds tree.size
        (skip.or (ownSkipReason? (.mk name attributes text children)))
        (tree.addChild place (statedFilter (.mk name attributes text children))) (by simp) children
      rw [FilterTree.size_addChild] at filled
      exact readEntry_filter_adds place skip tree _ inside isFilter filled
    · by_cases isFile : name = "File"
      · exact readEntry_file_adds place skip tree _ inFile next inside isFile
          (readFileParts_adds place skip _ next tree inside children)
      · rw [readEntry, headingsOf, listedOf]
        simp only [if_neg isFilter, if_neg isFile]
        exact .ofNothing rfl (by simp [Note.leftOut?]) (by simp)

/-- The parts of a file are added as they are listed. -/
theorem readFileParts_adds (place : Nat) (skip : Option SkipReason) (file : FileEntry) (next : Nat)
    (tree : FilterTree) (inside : place < tree.size) :
    ∀ parts : List Element,
      Adds tree (Prod.snd <$> readFileParts place skip file tree parts) []
        (listedIn (some ⟨place, skip, true⟩) next parts)
  | [] => by
    rw [readFileParts, listedIn]
    exact .ofNothing rfl (by simp) (by simp)
  | part :: rest => by
    rw [readFileParts, listedIn]
    have others : ∀ (file : FileEntry) (tree : FilterTree), place < tree.size →
        Adds tree (Prod.snd <$> readFileParts place skip file tree rest) []
          (listedIn (some ⟨place, skip, true⟩) (next + filtersOf part) rest) :=
      fun file tree inside => readFileParts_adds place skip file _ tree inside rest
    by_cases configured : part.name = "FileConfiguration"
    · have notFilter : part.name ≠ "Filter" := configured.trans_ne (by decide)
      have notFile : part.name ≠ "File" := configured.trans_ne (by decide)
      rw [if_pos configured, listedOf_other _ _ part notFilter notFile, List.nil_append, map_bind]
      exact .afterQuiet (quiet_readFileConfiguration file part) (others _ tree inside)
    · rw [if_neg configured]
      by_cases isFile : part.name = "File"
      · have notFilter : part.name ≠ "Filter" := isFile.trans_ne (by decide)
        have first := readEntry_adds place skip true next tree inside part
          fun isFilter => absurd isFilter notFilter
        rw [headingsOf_other place next part notFilter] at first
        -- Without filters the tree keeps its size, and the place stays in it.
        have same := first.size
        rw [if_pos isFile, map_bind]
        exact first.bind (others file _ (by omega))
      · have unread : Adds tree (pure tree) []
            (listedOf (some ⟨place, skip, true⟩) next part) := by
          by_cases isFilter : part.name = "Filter"
          · rw [listedOf_filter _ next part isFilter]
            exact Adds.unread tree (next + 1) part.children
          · rw [listedOf_other _ next part isFilter isFile]
            exact .ofNothing rfl (quiet_pure tree) (by simp)
        rw [if_neg isFile, map_bind]
        exact unread.trans (.afterQuiet (by simp [Note.leftOut?]) (others file tree inside))

end

end Reading

section Projects

/-- What a part of a project adds: the entries below it if it is an element `Files`, and nothing
otherwise. -/
theorem readProjectPart_adds (project : Project) (part : Element)
    (inside : FilterTree.root < project.filters.size) :
    Adds project.filters ((·.filters) <$> readProjectPart project part)
      (headingsIn FilterTree.root project.filters.size (fileEntries [part]))
      (listedIn (some ⟨FilterTree.root, none, false⟩) project.filters.size
        (fileEntries [part])) := by
  rw [readProjectPart]
  by_cases holdsFiles : part.name = "Files"
  · have entries : fileEntries [part] = part.children := by simp [fileEntries, holdsFiles]
    have read := readFilter_adds FilterTree.root none project.filters inside part.children
    have notConfigurations : part.name ≠ "Configurations" := holdsFiles.trans_ne (by decide)
    rw [entries, if_neg notConfigurations, if_pos holdsFiles]
    simpa only [map_bind, map_pure, bind_pure] using read
  · have entries : fileEntries [part] = [] := by simp [fileEntries, holdsFiles]
    rw [entries, headingsIn, listedIn]
    by_cases configured : part.name = "Configurations"
    · rw [if_pos configured]
      refine .ofNothing rfl ?_ (by simp)
      simp only [quiet_map, quiet_bind, quiet_pure, and_true]
      exact quiet_fold _ _ _ fun configurations element _ =>
        quiet_addConfiguration configurations element
    · rw [if_neg configured, if_neg holdsFiles]
      exact .ofNothing rfl (by simp) (by simp)

/-- What the parts of a project add. -/
theorem readProjectParts_adds (project : Project) (parts : List Element)
    (inside : FilterTree.root < project.filters.size) :
    Adds project.filters ((·.filters) <$> Reported.fold readProjectPart project parts)
      (headingsIn FilterTree.root project.filters.size (fileEntries parts))
      (listedIn (some ⟨FilterTree.root, none, false⟩) project.filters.size
        (fileEntries parts)) := by
  induction parts generalizing project with
  | nil =>
    rw [fileEntries, List.filter_nil, List.flatMap_nil, headingsIn, listedIn]
    exact .ofNothing rfl (by simp [Reported.fold]) (by simp)
  | cons part rest inductionHypothesis =>
    have entries : fileEntries (part :: rest) = fileEntries [part] ++ fileEntries rest := by
      rw [fileEntries, fileEntries, fileEntries, ← List.flatMap_append, ← List.filter_append,
        List.singleton_append]
    have first := readProjectPart_adds project part inside
    have size := first.size
    rw [length_headingsIn, Reported.value_map] at size
    have further := inductionHypothesis (readProjectPart project part).value (by omega)
    rw [size] at further
    rw [entries, headingsIn_append, listedIn_append, Reported.fold, map_bind]
    exact first.bindVia further

/-- What reading a project adds to the empty tree. -/
theorem readProject_adds (element : Element) :
    Adds .empty ((·.filters) <$> readProject element)
      (headingsIn FilterTree.root FilterTree.empty.size (fileEntries element.children))
      (listedFiles element) := by
  rw [readProject, map_bind]
  refine .afterQuiet (quiet_fold _ _ _ fun project entry _ =>
    quiet_readProjectAttribute project entry) ?_
  have kept : (Reported.fold readProjectAttribute { dialect := some .vcproj }
      element.attributes).value.filters = .empty :=
    readProjectAttributes_keep { dialect := some .vcproj } element.attributes
  have read := readProjectParts_adds
    (Reported.fold readProjectAttribute { dialect := some .vcproj } element.attributes).value
    element.children (by rw [kept]; decide)
  rw [kept] at read
  rw [bind_pure_comp, Functor.map_map]
  exact read

end Projects

section Documents

/-- Something becomes of a file exactly if reading comes to it and finds a path that is not empty
in its normal form. -/
theorem outcome_ne_nothing_iff (file : ListedFile) :
    file.outcome ≠ .nothing ↔ file.site.isSome ∧ filePath file.element ≠ "" := by
  rw [ListedFile.outcome]
  cases file.site with
  | none => simp
  | some site =>
    by_cases pathless : filePath file.element = ""
    · simp [pathless]
    · cases known : site.reason? file.element <;> simp [pathless, known]

/-- Something becomes only of files with paths that are more than blanks. -/
theorem hasPath_of_outcome (file : ListedFile) (something : file.outcome ≠ .nothing) :
    file.hasPath = true := by
  obtain ⟨-, path⟩ := (outcome_ne_nothing_iff file).mp something
  rw [ListedFile.hasPath, decide_eq_true_eq]
  intro blank
  have trimmedAway : Text.trim (file.element.valueOf "RelativePath").toList = [] := by
    simpa [trimmed] using blank
  exact path (by simp [filePath, Path.normal, trimmedAway, Path.dropDots])

/-- Of the files with paths as many are filed or left out as there are, exactly if something
becomes of each of them. -/
theorem length_eq_iff_none_lost (files : List ListedFile) :
    ((files.map (·.outcome)).filterMap (·.filed?)).length +
          ((files.map (·.outcome)).filterMap (·.leftOut?)).length =
        (files.filter (·.hasPath)).length ↔
      ∀ file ∈ files, file.hasPath = true → file.outcome ≠ .nothing := by
  have among : files.filter (fun file => decide (file.outcome ≠ .nothing)) =
      (files.filter (·.hasPath)).filter fun file => decide (file.outcome ≠ .nothing) := by
    rw [List.filter_filter]
    apply List.filter_congr
    intro file _
    by_cases something : file.outcome = .nothing
    · simp [something]
    · simp [something, hasPath_of_outcome file something]
  rw [Outcome.length_filed_add_leftOut, List.countP_map, List.countP_eq_length_filter]
  change (files.filter fun file => decide (file.outcome ≠ .nothing)).length = _ ↔ _
  rw [among, List.length_filter_eq_length_iff]
  simp only [List.mem_filter, and_imp, decide_eq_true_eq]

/-- What becomes of the files of a document. The projects hold the filters that are read in their
elements, in the order of the document, and at the place of each filter the files that are filed
there. The files that are left out are recorded in the order of the document. So all files with
paths are accounted for, each once, exactly if reading comes to each of them and finds a path that
is not empty in its normal form. -/
theorem readProjects_accounts (document : Element) :
    List.Forall₂ (fun element project =>
        project.filters.nodes.map heading = listedHeadings element ∧
          ∀ place, project.filters.filesAt place =
            ((listedFiles element).map (·.outcome)).filterMap (·.filedAt? place))
      (projectElements document) (readProjects document).value ∧
    leftOut (readProjects document).notes =
      ((documentFiles document).map (·.outcome)).filterMap (·.leftOut?) ∧
    (((readProjects document).value.flatMap (·.filters.files)).length +
          (leftOut (readProjects document).notes).length =
        ((documentFiles document).filter (·.hasPath)).length ↔
      ∀ file ∈ documentFiles document, file.hasPath = true →
        file.site.isSome ∧ filePath file.element ≠ "") := by
  have filed : ∀ element place, (readProject element).value.filters.filesAt place =
      ((listedFiles element).map (·.outcome)).filterMap (·.filedAt? place) :=
    fun element place => by
      have read := (readProject_adds element).accounts.filed place
      rwa [FilterTree.filesAt_empty, List.nil_append] at read
  have recorded : leftOut (readProjects document).notes =
      ((documentFiles document).map (·.outcome)).filterMap (·.leftOut?) := by
    rw [readProjects, Reported.notes_forEach, leftOut_flatMap, documentFiles, List.map_flatMap,
      List.filterMap_flatMap]
    apply List.flatMap_congr
    intro element _
    have read := (readProject_adds element).accounts.leftOut
    rwa [Reported.notes_map] at read
  have entries : ((readProjects document).value.flatMap (·.filters.files)).length =
      (((documentFiles document).map (·.outcome)).filterMap (·.filed?)).length := by
    rw [readProjects, Reported.value_forEach, List.flatMap_map, documentFiles, List.map_flatMap,
      List.filterMap_flatMap, List.length_flatMap, List.length_flatMap]
    congr 1
    apply List.map_congr_left
    intro element _
    have perm := files_perm _ _ (filed element)
    rw [perm.length_eq, List.length_map]
  refine ⟨?_, recorded, ?_⟩
  · rw [readProjects, Reported.value_forEach, List.forall₂_map_right_iff]
    refine List.forall₂_same.mpr fun element _ => ⟨?_, filed element⟩
    exact (readProject_adds element).headings
  · rw [recorded, entries, length_eq_iff_none_lost]
    simp only [outcome_ne_nothing_iff]

/-- A file in one that is left out for the sake of its name. -/
def fileInIcon : Element :=
  .mk "VisualStudioProject" [⟨"Name", "p"⟩] "" [
    .mk "Files" [] "" [
      .mk "Filter" [⟨"Name", "Source Files"⟩] "" [
        .mk "File" [⟨"RelativePath", "app.ico"⟩] "" [
          .mk "File" [⟨"RelativePath", "main.cpp"⟩] "" []]]]]

/-- Not every file with a path is in a project or among those that are left out: one that stands
in a file that is left out is neither. -/
theorem fileInIcon_lost :
    ¬ ∀ file ∈ documentFiles fileInIcon, file.hasPath = true →
      (∃ project ∈ (readProjects fileInIcon).value, ∃ entry ∈ project.filters.files,
          entry.path = filePath file.element) ∨
        ∃ record ∈ leftOut (readProjects fileInIcon).notes, record.1 = filePath file.element := by
  decide

end Documents

end ProjectScribe.Reading.AttributeFormat
