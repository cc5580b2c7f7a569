import ProjectScribe.Conversion.ProjectFile
import ProjectScribe.Reading.ProjectText

/-!
# What comes of a project file

A project file is judged in a fixed order: by its extension, which is decided without a look at any
file, by whether it can be read, by whether it is a document, in the newer format by the same two
questions about its companion, and last by whether it declares a project. Only a companion that is
missing is no failure. Where nothing fails, the projects and the notes are those of the texts alone.
-/
namespace ProjectScribe.Conversion

open Reading (AttributeFormat.readText? ElementFormat.readText? companionPath)
open Storage (Cause FileTree)

/-- Whether the extension of a path is a given word, in any case. -/
def HasExtension (path word : String) : Prop :=
  ∃ extension, Path.extension path = some extension ∧ Text.lower extension = word

/-- Whether a path is one of a project file, in either format. -/
def IsProjectPath (path : String) : Prop :=
  HasExtension path "vcproj" ∨ HasExtension path "vcxproj"

/-- Whether a text is a document. -/
def IsDocument (text : String) : Prop := (Xml.Element.read? text).isSome = true

/-- The text of the companion of a project file, which has `.filters` behind the same path, or none
if that is missing. -/
inductive CompanionText (tree : FileTree) (path : String) : Option String → Prop where
  | held (text : String) (read : tree.readText (path ++ ".filters") = .ok text) :
      CompanionText tree path (some text)
  | missing (absent : tree.readText (path ++ ".filters") = .error .notFound) :
      CompanionText tree path none

/-- Whether a document has an element that is a project in the format of a path: in the older one
anywhere, in the newer one at its top. -/
def HasProject (path : String) (document : Xml.Element) : Prop :=
  HasExtension path "vcproj" ∧
      (∃ element ∈ document.withDescendants, element.name = "VisualStudioProject") ∨
    HasExtension path "vcxproj" ∧ document.name = "Project"

/-- What the text of a project file declares, in the newer format together with that of its
companion. -/
inductive Declares (tree : FileTree) (path text : String) : Reading (List Project) → Prop where
  | older (older : HasExtension path "vcproj") (reading : Reading (List Project))
      (read : AttributeFormat.readText? text = some reading) :
      Declares tree path text reading
  | newer (newer : HasExtension path "vcxproj") (companion : Option String)
      (beside : CompanionText tree path companion) (stem : String)
      (named : Path.stem path = some stem) (reading : Reading (List Project))
      (read : ElementFormat.readText? text companion stem = some reading) :
      Declares tree path text ⟨reading.value,
        (if companion = none then [.noCompanion (path ++ ".filters")] else []) ++ reading.notes⟩

/-- What comes of a project file. -/
inductive Comes (tree : FileTree) (path : String) :
    Reading (Except Failure (List Project)) → Prop where
  | unsupported (other : ¬ IsProjectPath path) :
      Comes tree path ⟨.error (.unsupported path), []⟩
  | unread (known : IsProjectPath path) (cause : Cause)
      (failed : tree.readText path = .error cause) :
      Comes tree path ⟨.error (.read path cause), []⟩
  | malformed (known : IsProjectPath path) (text : String) (held : tree.readText path = .ok text)
      (bad : ¬ IsDocument text) :
      Comes tree path ⟨.error (.malformed path), []⟩
  | companionUnread (newer : HasExtension path "vcxproj") (text : String)
      (held : tree.readText path = .ok text) (good : IsDocument text) (cause : Cause)
      (failed : tree.readText (path ++ ".filters") = .error cause) (other : cause ≠ .notFound) :
      Comes tree path ⟨.error (.read (path ++ ".filters") cause), []⟩
  | companionMalformed (newer : HasExtension path "vcxproj") (text : String)
      (held : tree.readText path = .ok text) (good : IsDocument text) (companion : String)
      (beside : tree.readText (path ++ ".filters") = .ok companion)
      (bad : ¬ IsDocument companion) :
      Comes tree path ⟨.error (.malformed (path ++ ".filters")), []⟩
  | noProject (text : String) (held : tree.readText path = .ok text) (document : Xml.Element)
      (good : Xml.Element.read? text = some document) (lacking : ¬ HasProject path document)
      (reading : Reading (List Project)) (declares : Declares tree path text reading) :
      Comes tree path ⟨.error (.noProject path), reading.notes⟩
  | declared (text : String) (held : tree.readText path = .ok text) (document : Xml.Element)
      (good : Xml.Element.read? text = some document) (present : HasProject path document)
      (reading : Reading (List Project)) (declares : Declares tree path text reading) :
      Comes tree path ⟨.ok reading.value, reading.notes⟩

section Formats

/-- The format of a path is told by its extension. -/
theorem dialectOf_older {path : String} (older : HasExtension path "vcproj") :
    Reading.dialectOf path = some .vcproj := by
  obtain ⟨extension, ends, same⟩ := older
  unfold Reading.dialectOf
  rw [ends, Option.map_some, same]
  rfl

theorem dialectOf_newer {path : String} (newer : HasExtension path "vcxproj") :
    Reading.dialectOf path = some .vcxproj := by
  obtain ⟨extension, ends, same⟩ := newer
  unfold Reading.dialectOf
  rw [ends, Option.map_some, same]
  rfl

theorem dialectOf_other {path : String} (other : ¬ IsProjectPath path) :
    Reading.dialectOf path = none := by
  unfold Reading.dialectOf
  split
  · next ends =>
    obtain ⟨extension, found, same⟩ := Option.map_eq_some_iff.mp ends
    exact absurd (.inl ⟨extension, found, same⟩) other
  · next ends =>
    obtain ⟨extension, found, same⟩ := Option.map_eq_some_iff.mp ends
    exact absurd (.inr ⟨extension, found, same⟩) other
  · rfl

theorem dialectOf_known {path : String} (known : IsProjectPath path) :
    ∃ dialect, Reading.dialectOf path = some dialect := by
  rcases known with older | newer
  · exact ⟨.vcproj, dialectOf_older older⟩
  · exact ⟨.vcxproj, dialectOf_newer newer⟩

/-- No path is one of both formats. -/
theorem not_older_of_newer {path : String} (newer : HasExtension path "vcxproj") :
    ¬ HasExtension path "vcproj" := by
  intro older
  have same := (dialectOf_older older).symm.trans (dialectOf_newer newer)
  cases same

theorem fallbackName_eq {path stem : String} (named : Path.stem path = some stem) :
    fallbackName path = stem := by
  rw [fallbackName, named, Option.getD_some]

/-- A path with an extension has a name before it. -/
theorem stem_of_extension {path word : String} (ends : HasExtension path word) :
    ∃ stem, Path.stem path = some stem := by
  obtain ⟨extension, found, -⟩ := ends
  obtain ⟨name, named, -⟩ := Option.bind_eq_some_iff.mp found
  exact ⟨(Path.cutExtension name).1, by rw [Path.stem, named, Option.map_some]⟩

end Formats

/-- The companion of a project file is named after it. -/
theorem companionPath_eq (path : String) : companionPath path = path ++ ".filters" := rfl

section Steps

variable {tree : FileTree} {path text : String}

/-- A file of a known format that cannot be read declares nothing. -/
theorem readDeclared_of_unread {cause : Cause} (known : IsProjectPath path)
    (failed : tree.readText path = .error cause) :
    readDeclared tree path = .error (.read path cause) := by
  obtain ⟨dialect, known⟩ := dialectOf_known known
  unfold readDeclared
  rw [known, readRequired, failed]
  rfl

/-- Nor does a text that is no document. -/
theorem readDeclared_of_malformed (known : IsProjectPath path)
    (held : tree.readText path = .ok text) (bad : ¬ IsDocument text) :
    readDeclared tree path = .error (.malformed path) := by
  obtain ⟨dialect, known⟩ := dialectOf_known known
  rw [IsDocument, Option.not_isSome_iff_eq_none] at bad
  unfold readDeclared
  rw [known, readRequired, held]
  change readDocument path text >>= _ = _
  rw [readDocument, bad]
  rfl

/-- A document in the older format declares its projects. -/
theorem readDeclared_of_older {document : Xml.Element} (older : HasExtension path "vcproj")
    (held : tree.readText path = .ok text) (good : Xml.Element.read? text = some document) :
    readDeclared tree path = .ok (Reading.AttributeFormat.readProjects document) := by
  unfold readDeclared
  rw [dialectOf_older older, readRequired, held]
  change readDocument path text >>= _ = _
  rw [readDocument, good]
  rfl

/-- A document in the newer format declares its projects together with its companion. -/
theorem readDeclared_of_newer {document : Xml.Element} (newer : HasExtension path "vcxproj")
    (held : tree.readText path = .ok text) (good : Xml.Element.read? text = some document) :
    readDeclared tree path = readWithCompanion tree path document := by
  unfold readDeclared
  rw [dialectOf_newer newer, readRequired, held]
  change readDocument path text >>= _ = _
  rw [readDocument, good]
  rfl

/-- A companion that cannot be read is a failure, unless it is missing. -/
theorem readWithCompanion_of_unread {document : Xml.Element} {cause : Cause}
    (failed : tree.readText (path ++ ".filters") = .error cause) (other : cause ≠ .notFound) :
    readWithCompanion tree path document = .error (.read (path ++ ".filters") cause) := by
  rw [readWithCompanion, companionPath_eq, readCompanion, readOptional, failed]
  cases cause with
  | notFound => exact absurd rfl other
  | _ => rfl

theorem readWithCompanion_of_malformed {document : Xml.Element} {companion : String}
    (beside : tree.readText (path ++ ".filters") = .ok companion) (bad : ¬ IsDocument companion) :
    readWithCompanion tree path document = .error (.malformed (path ++ ".filters")) := by
  rw [IsDocument, Option.not_isSome_iff_eq_none] at bad
  have unread : readCompanion tree (path ++ ".filters") =
      .error (.malformed (path ++ ".filters")) := by
    rw [readCompanion, readOptional, beside]
    change readDocument (path ++ ".filters") companion >>= _ = _
    rw [readDocument, bad]
    rfl
  rw [readWithCompanion, companionPath_eq, unread]
  rfl

/-- What the newer format declares with the text of its companion, or without it. -/
theorem readWithCompanion_of_text {document : Xml.Element} {companion : Option String}
    {filters : Option Xml.Element} (beside : CompanionText tree path companion)
    (good : companion.mapM Xml.Element.read? = some filters) :
    readWithCompanion tree path document =
      .ok ⟨(Reading.ElementFormat.readProjects document filters (fallbackName path)).value,
        (if companion = none then [.noCompanion (path ++ ".filters")] else []) ++
          (Reading.ElementFormat.readProjects document filters (fallbackName path)).notes⟩ := by
  cases beside with
  | held text read =>
    obtain ⟨other, goodToo, rfl⟩ := Option.map_eq_some_iff.mp good
    have found : readCompanion tree (path ++ ".filters") = .ok (some other) := by
      rw [readCompanion, readOptional, read]
      change readDocument (path ++ ".filters") text >>= _ = _
      rw [readDocument, goodToo]
      rfl
    rw [readWithCompanion, companionPath_eq, found]
    rfl
  | missing absent =>
    obtain rfl := Option.some.inj good
    have found : readCompanion tree (path ++ ".filters") = .ok none := by
      rw [readCompanion, readOptional, absent]
      rfl
    rw [readWithCompanion, companionPath_eq, found]
    rfl

/-- A failure to read what is declared is the whole outcome. -/
theorem readProjects_of_failure {failure : Failure}
    (failed : readDeclared tree path = .error failure) :
    readProjects tree path = ⟨.error failure, []⟩ := by
  unfold readProjects
  rw [failed]
  rfl

/-- What is declared comes with its notes, if it is anything. -/
theorem readProjects_of_declared {reading : Reading (List Project)}
    (declared : readDeclared tree path = .ok reading) :
    readProjects tree path =
      ⟨if reading.value = [] then .error (.noProject path) else .ok reading.value,
        reading.notes⟩ := by
  obtain ⟨projects, notes⟩ := reading
  unfold readProjects
  rw [declared]
  apply Reported.ext
  · cases projects <;> rfl
  · cases projects <;> exact List.append_nil notes

end Steps

section Declared

variable {tree : FileTree} {path text : String} {reading : Reading (List Project)}

/-- What a text declares is read from the file that holds it. -/
theorem Declares.readDeclared_eq (declares : Declares tree path text reading)
    (held : tree.readText path = .ok text) : readDeclared tree path = .ok reading := by
  cases declares with
  | older older reading read =>
    obtain ⟨document, good, rfl⟩ := Option.map_eq_some_iff.mp read
    exact readDeclared_of_older older held good
  | newer newer companion beside stem named reading read =>
    obtain ⟨document, good, read⟩ := Option.bind_eq_some_iff.mp read
    obtain ⟨filters, goodToo, read⟩ := Option.bind_eq_some_iff.mp read
    obtain rfl := Option.some.inj read
    rw [readDeclared_of_newer newer held good, readWithCompanion_of_text beside goodToo,
      fallbackName_eq named]

/-- A text declares no project just if its document has no element of one. -/
theorem Declares.value_eq_nil_iff {document : Xml.Element}
    (declares : Declares tree path text reading) (good : Xml.Element.read? text = some document) :
    reading.value = [] ↔ ¬ HasProject path document := by
  cases declares with
  | older older reading read =>
    rw [AttributeFormat.readText?, good] at read
    obtain rfl := Option.some.inj read
    have other : ¬ HasExtension path "vcxproj" := fun newer => not_older_of_newer newer older
    simp only [Reading.AttributeFormat.readProjects, Reported.value_forEach, List.map_eq_nil_iff,
      List.filter_eq_nil_iff, decide_eq_true_eq, HasProject, older, other, true_and, false_and,
      or_false, not_exists, not_and]
  | newer newer companion beside stem named reading read =>
    obtain ⟨same, goodSame, read⟩ := Option.bind_eq_some_iff.mp read
    obtain ⟨filters, goodToo, read⟩ := Option.bind_eq_some_iff.mp read
    obtain rfl := Option.some.inj read
    obtain rfl : document = same := Option.some.inj (good.symm.trans goodSame)
    have other := not_older_of_newer newer
    simp only [HasProject, newer, other, false_and, true_and, false_or,
      Reading.ElementFormat.readProjects, Reading.ElementFormat.projectElement?]
    by_cases isProject : document.name = "Project"
    · simp [isProject]
    · simp [isProject]

end Declared

section Outcomes

variable (tree : FileTree) (path : String)

/-- What comes of a project file is what is read. -/
theorem Comes.eq {result : Reading (Except Failure (List Project))}
    (comes : Comes tree path result) : readProjects tree path = result := by
  cases comes with
  | unsupported other =>
    apply readProjects_of_failure
    unfold readDeclared
    rw [dialectOf_other other]
    rfl
  | unread known cause failed =>
    exact readProjects_of_failure (readDeclared_of_unread known failed)
  | malformed known text held bad =>
    exact readProjects_of_failure (readDeclared_of_malformed known held bad)
  | companionUnread newer text held good cause failed other =>
    obtain ⟨document, good⟩ := Option.isSome_iff_exists.mp good
    apply readProjects_of_failure
    rw [readDeclared_of_newer newer held good, readWithCompanion_of_unread failed other]
  | companionMalformed newer text held good companion beside bad =>
    obtain ⟨document, good⟩ := Option.isSome_iff_exists.mp good
    apply readProjects_of_failure
    rw [readDeclared_of_newer newer held good, readWithCompanion_of_malformed beside bad]
  | noProject text held document good lacking reading declares =>
    have none := (declares.value_eq_nil_iff good).mpr lacking
    rw [readProjects_of_declared (declares.readDeclared_eq held), if_pos none]
  | declared text held document good present reading declares =>
    have some := mt (declares.value_eq_nil_iff good).mp (not_not_intro present)
    rw [readProjects_of_declared (declares.readDeclared_eq held), if_neg some]

/-- What a text declares comes of its file, if there is a project in it, or else the failure that
there is none. -/
theorem Comes.of_declares {text : String} {document : Xml.Element}
    {reading : Reading (List Project)} (held : tree.readText path = .ok text)
    (good : Xml.Element.read? text = some document) (declares : Declares tree path text reading) :
    ∃ result, Comes tree path result := by
  by_cases present : HasProject path document
  · exact ⟨_, .declared text held document good present reading declares⟩
  · exact ⟨_, .noProject text held document good present reading declares⟩

/-- Something comes of every path. -/
theorem Comes.exists : ∃ result, Comes tree path result := by
  by_cases known : IsProjectPath path
  · cases held : tree.readText path with
    | error cause => exact ⟨_, .unread known cause held⟩
    | ok text =>
      cases good : Xml.Element.read? text with
      | none => exact ⟨_, .malformed known text held (by simp [IsDocument, good])⟩
      | some document =>
        have isDocument : IsDocument text := by simp [IsDocument, good]
        rcases known with older | newer
        · have read : AttributeFormat.readText? text =
              some (Reading.AttributeFormat.readProjects document) := by
            rw [AttributeFormat.readText?, good, Option.map_some]
          exact Comes.of_declares tree path held good (.older older _ read)
        · obtain ⟨stem, named⟩ := stem_of_extension newer
          cases beside : tree.readText (path ++ ".filters") with
          | error cause =>
            by_cases missing : cause = .notFound
            · subst missing
              have read : ElementFormat.readText? text none stem =
                  some (Reading.ElementFormat.readProjects document none stem) := by
                rw [ElementFormat.readText?, good]
                rfl
              exact Comes.of_declares tree path held good
                (.newer newer none (.missing beside) stem named _ read)
            · exact ⟨_, .companionUnread newer text held isDocument cause beside missing⟩
          | ok companion =>
            cases goodToo : Xml.Element.read? companion with
            | none =>
              exact ⟨_, .companionMalformed newer text held isDocument companion beside
                (by simp [IsDocument, goodToo])⟩
            | some filters =>
              have read : ElementFormat.readText? text (some companion) stem =
                  some (Reading.ElementFormat.readProjects document (some filters) stem) := by
                rw [ElementFormat.readText?, good, Option.mapM_some, goodToo]
                rfl
              exact Comes.of_declares tree path held good
                (.newer newer (some companion) (.held companion beside) stem named _ read)
  · exact ⟨_, .unsupported known⟩

/-- Of every path in every tree comes exactly what its extension, the texts of its file and of its
companion, and these as documents say, in this order. In particular, a path is unsupported just if
its extension is that of no format, whatever the files hold, and a file is without a project just if
nothing fails before and its document has no element of one. -/
theorem readProjects_eq_iff :
    (∀ result, readProjects tree path = result ↔ Comes tree path result) ∧
      ((readProjects tree path).value = .error (.unsupported path) ↔ ¬ IsProjectPath path) ∧
      ((readProjects tree path).value = .error (.noProject path) ↔
        ∃ text document reading, tree.readText path = .ok text ∧
          Xml.Element.read? text = some document ∧ Declares tree path text reading ∧
          ¬ HasProject path document) := by
  obtain ⟨found, comes⟩ := Comes.exists tree path
  have read := comes.eq
  refine ⟨fun result => ⟨fun same => ?_, fun other => other.eq⟩, ⟨fun failed => ?_, fun other => ?_⟩,
    ⟨fun failed => ?_, ?_⟩⟩
  · rw [← same, read]
    exact comes
  · rw [read] at failed
    cases comes with
    | unsupported other => exact other
    | _ => cases failed
  · rw [(Comes.unsupported other).eq]
  · rw [read] at failed
    cases comes with
    | noProject text held document good lacking reading declares =>
      exact ⟨text, document, reading, held, good, declares, lacking⟩
    | _ => cases failed
  · rintro ⟨text, document, reading, held, good, declares, lacking⟩
    rw [(Comes.noProject text held document good lacking reading declares).eq]

end Outcomes

end ProjectScribe.Conversion
