import ProjectScribe.Conversion.Failure
import ProjectScribe.Mapping.Table
import ProjectScribe.Reading.AttributeFormat
import ProjectScribe.Reading.ElementFormat
import ProjectScribe.Settings.Reader
import ProjectScribe.Xml.Document

/-!
# The files that a conversion reads

A project file in the newer format may have a companion file; only if that is missing is it read
without one. Mapping tables are read beside the project and below the root directory, and one
that cannot be read is empty.
-/
namespace ProjectScribe.Conversion

open Storage (Cause FileTree)

/-- The text of a file that has to be there. -/
def readRequired (tree : FileTree) (path : String) : Except Failure String :=
  (tree.readText path).mapError (.read path)

/-- The text of a file that may be missing. -/
def readOptional (tree : FileTree) (path : String) : Except Failure (Option String) :=
  match tree.readText path with
  | .ok text => .ok (some text)
  | .error .notFound => .ok none
  | .error cause => .error (.read path cause)

/-- The document that the text of a file is. -/
def readDocument (path text : String) : Except Failure Xml.Element :=
  match Xml.Element.read? text with
  | some document => .ok document
  | none => .error (.malformed path)

/-- The document that a file holds, if there is such a file. -/
def readCompanion (tree : FileTree) (path : String) : Except Failure (Option Xml.Element) := do
  match ← readOptional tree path with
  | none => return none
  | some text => return some (← readDocument path text)

/-- The name of a project that does not tell its own. -/
def fallbackName (path : String) : String := (Path.stem path).getD "project"

/-- The projects that a file in the newer format declares together with its companion. -/
def readWithCompanion (tree : FileTree) (path : String) (document : Xml.Element) :
    Except Failure (Reading (List Project)) := do
  let companion ← readCompanion tree (Reading.companionPath path)
  return do
    Reported.noteIf companion.isNone (.noCompanion (Reading.companionPath path))
    Reading.ElementFormat.readProjects document companion (fallbackName path)

/-- The projects that a file declares, none included. -/
def readDeclared (tree : FileTree) (path : String) : Except Failure (Reading (List Project)) := do
  match Reading.dialectOf path with
  | none => throw (.unsupported path)
  | some dialect =>
    let document ← readDocument path (← readRequired tree path)
    match dialect with
    | .vcproj => return Reading.AttributeFormat.readProjects document
    | .vcxproj => readWithCompanion tree path document

/-- The projects that a file declares, of which there has to be one. -/
def readProjects (tree : FileTree) (path : String) : Reading (Except Failure (List Project)) :=
  match readDeclared tree path with
  | .error failure => pure (.error failure)
  | .ok declared => do
    match ← declared with
    | [] => return .error (.noProject path)
    | projects => return .ok projects

/-- The mapping table in a file. -/
def readTable (tree : FileTree) (path : String) : Mapping.Table :=
  match tree.readText path with
  | .ok text => Mapping.Table.parse text
  | .error _ => .empty

/-- The mapping tables of a project, each followed by that of the whole source tree unless both
are the same. -/
def readTables (tree : FileTree) (projectDir rootDir : String) : Mapping.Tables :=
  .ofNamed fun name =>
    let own := readTable tree (Path.join projectDir name)
    if Path.same projectDir rootDir then own
    else own.append (readTable tree (Path.join rootDir name))

/-- The settings that a file makes. -/
def readSettings (tree : FileTree) (path : String) : Except Failure Settings := do
  match Settings.ofJson? (← readRequired tree path) with
  | some settings => return settings
  | none => throw (.settings path)

end ProjectScribe.Conversion
