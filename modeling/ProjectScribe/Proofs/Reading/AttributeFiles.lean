import ProjectScribe.Proofs.Reading.Outcome
import ProjectScribe.Reading.AttributeFormat

/-!
# What becomes of the files of the older format

Files stand below the element `Files`, in filters and in other files, as deep as a document likes.
Each of them is listed here with its `Site`: the place of the innermost filter around it, where
filters are counted in the order of the document, and the reason for which the filters around it
leave out its files. A listed file has no site where reading does not come to it: below a file
that is itself left out or has no path, and below a filter that stands in a file.

Reading a document files every listed file that has a site and a path once, in the node at its
place or among the files that are left out, and makes nothing of the others.
-/
namespace ProjectScribe.Reading.AttributeFormat

open Xml (Attribute Element)

/-- The path of a file in its normal form. -/
def filePath (element : Element) : String := Path.normal (element.valueOf "RelativePath")

/-- Where reading comes to an element. -/
structure Site where
  /-- The place of the innermost filter around the element. -/
  place : Nat
  /-- Why the filters around the element leave out its files, if they do. -/
  skip : Option SkipReason
  /-- Whether the element stands in a file. -/
  inFile : Bool
deriving DecidableEq, Repr

/-- Why a file at a site is left out, if it is: for the sake of its filters, or of its name. -/
def Site.reason? (site : Site) (file : Element) : Option SkipReason :=
  site.skip.or (skipReason? (filePath file))

/-- The site of what stands in a filter that gets a place. There is none in a file. -/
def Site.inFilter (site : Site) (place : Nat) (filter : Element) : Option Site :=
  if site.inFile then none else some ⟨place, site.skip.or (ownSkipReason? filter), false⟩

/-- The site of what stands in a file. There is none if the file has no path or is left out. -/
def Site.belowFile (site : Site) (file : Element) : Option Site :=
  if filePath file = "" ∨ (site.reason? file).isSome then none
  else some { site with inFile := true }

/-- The file that an element states with its configurations. -/
def statedFile (element : Element) : FileEntry :=
  (Reported.fold readFileConfiguration { path := filePath element }
    (element.children.filter (·.name = "FileConfiguration"))).value

/-- The filter that an element states, with nothing in it yet. -/
def statedFilter (element : Element) : FilterNode :=
  (Reported.fold readFilterAttribute { name := element.valueOf "Name" } element.attributes).value

/-- A file element, and its site if reading comes to it. -/
structure ListedFile where
  site : Option Site
  element : Element

namespace ListedFile

/-- What becomes of a listed file. -/
def outcome (file : ListedFile) : Outcome :=
  match file.site with
  | none => .nothing
  | some site =>
    if filePath file.element = "" then .nothing
    else match site.reason? file.element with
      | some reason => .leftOut (filePath file.element) reason
      | none => .filed site.place (statedFile file.element)

/-- Whether the path of a file is more than blanks. -/
def hasPath (file : ListedFile) : Bool := trimmed (file.element.valueOf "RelativePath") ≠ ""

end ListedFile

mutual

/-- How many filters are read in an element. -/
def filtersOf : Element → Nat
  | .mk name _ _ children => if name = "Filter" then 1 + filtersIn children else 0

/-- How many filters are read in several elements. -/
def filtersIn : List Element → Nat
  | [] => 0
  | entry :: rest => filtersOf entry + filtersIn rest

end

mutual

/-- The files that stand in an element, itself included. The first filter that is read gets the
given place, and those that follow get the places behind it. Files that stand in a file come
before it. -/
def listedOf (site : Option Site) (next : Nat) : Element → List ListedFile
  | .mk name attributes text children =>
    let element : Element := .mk name attributes text children
    if name = "Filter" then listedIn (site.bind (·.inFilter next element)) (next + 1) children
    else if name = "File" then
      listedIn (site.bind (·.belowFile element)) next children ++ [⟨site, element⟩]
    else []

/-- The files that stand in several elements. -/
def listedIn (site : Option Site) (next : Nat) : List Element → List ListedFile
  | [] => []
  | entry :: rest => listedOf site next entry ++ listedIn site (next + filtersOf entry) rest

end

/-- What a node says about its filter: everything but what is in it. -/
def heading (node : FilterNode) : FilterNode := { node with children := [], files := [] }

mutual

/-- The headings of the filters that are read in an element, in the order of the document, below a
place and from a place on. -/
def headingsOf (place next : Nat) : Element → List FilterNode
  | .mk name attributes text children =>
    let element : Element := .mk name attributes text children
    if name = "Filter" then
      heading { statedFilter element with parent := some place } ::
        headingsIn next (next + 1) children
    else []

/-- The headings of the filters that are read in several elements. -/
def headingsIn (place next : Nat) : List Element → List FilterNode
  | [] => []
  | entry :: rest =>
    headingsOf place next entry ++ headingsIn place (next + filtersOf entry) rest

end

/-- The projects of a document, wherever in it they stand. -/
def projectElements (document : Element) : List Element :=
  document.withDescendants.filter (·.name = "VisualStudioProject")

/-- What stands in the elements `Files` of a project. -/
def fileEntries (parts : List Element) : List Element :=
  (parts.filter (·.name = "Files")).flatMap (·.children)

/-- The files of a project. -/
def listedFiles (project : Element) : List ListedFile :=
  listedIn (some ⟨FilterTree.root, none, false⟩) FilterTree.empty.size
    (fileEntries project.children)

/-- The headings of the filters of a project, that of the root first. -/
def listedHeadings (project : Element) : List FilterNode :=
  FilterTree.empty.nodes.map heading ++
    headingsIn FilterTree.root FilterTree.empty.size (fileEntries project.children)

/-- The files of all projects of a document. -/
def documentFiles (document : Element) : List ListedFile :=
  (projectElements document).flatMap listedFiles

section Listing

/-- What stands in a filter, from its site. -/
theorem listedOf_filter (site : Option Site) (next : Nat) (element : Element)
    (isFilter : element.name = "Filter") :
    listedOf site next element =
      listedIn (site.bind (·.inFilter next element)) (next + 1) element.children := by
  obtain ⟨name, attributes, text, children⟩ := element
  rw [listedOf]
  exact if_pos isFilter

/-- A file and what stands in it. -/
theorem listedOf_file (site : Option Site) (next : Nat) (element : Element)
    (isFile : element.name = "File") :
    listedOf site next element =
      listedIn (site.bind (·.belowFile element)) next element.children ++ [⟨site, element⟩] := by
  obtain ⟨name, attributes, text, children⟩ := element
  have notFilter : name ≠ "Filter" := by
    rw [show name = "File" from isFile]
    decide
  rw [listedOf]
  exact (if_neg notFilter).trans (if_pos isFile)

/-- In an element that is neither a filter nor a file, no files stand. -/
theorem listedOf_other (site : Option Site) (next : Nat) (element : Element)
    (notFilter : element.name ≠ "Filter") (notFile : element.name ≠ "File") :
    listedOf site next element = [] := by
  obtain ⟨name, attributes, text, children⟩ := element
  rw [listedOf]
  exact (if_neg notFilter).trans (if_neg notFile)

theorem headingsOf_filter (place next : Nat) (element : Element)
    (isFilter : element.name = "Filter") :
    headingsOf place next element =
      heading { statedFilter element with parent := some place } ::
        headingsIn next (next + 1) element.children := by
  obtain ⟨name, attributes, text, children⟩ := element
  rw [headingsOf]
  exact if_pos isFilter

theorem headingsOf_other (place next : Nat) (element : Element)
    (notFilter : element.name ≠ "Filter") : headingsOf place next element = [] := by
  obtain ⟨name, attributes, text, children⟩ := element
  rw [headingsOf]
  exact if_neg notFilter

mutual

/-- There are as many headings as filters. -/
theorem length_headingsOf (place next : Nat) :
    ∀ element : Element, (headingsOf place next element).length = filtersOf element
  | .mk name attributes text children => by
    simp only [headingsOf, filtersOf]
    split
    · rw [List.length_cons, length_headingsIn next (next + 1) children, Nat.add_comm]
    · rfl

theorem length_headingsIn (place next : Nat) :
    ∀ elements : List Element, (headingsIn place next elements).length = filtersIn elements
  | [] => by simp [headingsIn, filtersIn]
  | entry :: rest => by
    rw [headingsIn, filtersIn, List.length_append, length_headingsOf place next entry,
      length_headingsIn place (next + filtersOf entry) rest]

end

mutual

/-- Where reading does not come to an element, it comes to nothing in it. -/
theorem site_of_mem_listedOf (next : Nat) :
    ∀ (element : Element) (file : ListedFile), file ∈ listedOf none next element →
      file.site = none
  | .mk name attributes text children, file, listed => by
    simp only [listedOf, Option.bind_none] at listed
    split at listed
    · exact site_of_mem_listedIn (next + 1) children file listed
    · split at listed
      · rcases List.mem_append.mp listed with inside | itself
        · exact site_of_mem_listedIn next children file inside
        · rw [List.mem_singleton.mp itself]
      · simp at listed

theorem site_of_mem_listedIn (next : Nat) :
    ∀ (elements : List Element) (file : ListedFile), file ∈ listedIn none next elements →
      file.site = none
  | [], file, listed => by simp [listedIn] at listed
  | entry :: rest, file, listed => by
    rw [listedIn, List.mem_append] at listed
    rcases listed with first | later
    · exact site_of_mem_listedOf next entry file first
    · exact site_of_mem_listedIn (next + filtersOf entry) rest file later

end

theorem listedIn_append (site : Option Site) (next : Nat) (first second : List Element) :
    listedIn site next (first ++ second) =
      listedIn site next first ++ listedIn site (next + filtersIn first) second := by
  induction first generalizing next with
  | nil => simp [listedIn, filtersIn]
  | cons entry rest inductionHypothesis =>
    rw [List.cons_append, listedIn, inductionHypothesis, listedIn, filtersIn, List.append_assoc,
      Nat.add_assoc]

theorem headingsIn_append (place next : Nat) (first second : List Element) :
    headingsIn place next (first ++ second) =
      headingsIn place next first ++ headingsIn place (next + filtersIn first) second := by
  induction first generalizing next with
  | nil => simp [headingsIn, filtersIn]
  | cons entry rest inductionHypothesis =>
    rw [List.cons_append, headingsIn, inductionHypothesis, headingsIn, filtersIn,
      List.append_assoc, Nat.add_assoc]

end Listing

end ProjectScribe.Reading.AttributeFormat
