import ProjectScribe.Reading.Note
import ProjectScribe.Reading.Value
import ProjectScribe.Path.Components

/-!
# Files by their names

The name of a project file tells its format. The name of a listed file tells whether it is left
out: because no compiler takes it, because the build makes it anew, or because it belongs to the
link step. The name of a filter tells whether it holds generated files.
-/
namespace ProjectScribe.Reading

/-- The format of a project file, by its extension up to case. -/
def dialectOf (path : String) : Option Dialect :=
  match (Path.extension path).map Text.lower with
  | some "vcproj" => some .vcproj
  | some "vcxproj" => some .vcxproj
  | _ => none

/-- The file that holds the filters of a project file in the newer format. -/
def companionPath (path : String) : String := path ++ ".filters"

/-- The extensions of files that are left out in silence. -/
def junkExtensions : List String := ["l", "lex", "y", "yy", "ico", "bmp", "cur", "txt"]

/-- What follows the last slash of a path. -/
def lastSegment (path : List Char) : List Char :=
  (path.reverse.takeWhile (· != '/')).reverse

/-- Why a file is left out because of its name, if it is. -/
def skipReason? (path : String) : Option SkipReason :=
  let name := String.ofList (lastSegment (Text.lower path).toList)
  let extension := (Path.extension name).getD ""
  if extension ∈ junkExtensions then some .junkExtension
  else if Text.endsWith "_i.c".toList name.toList || Text.endsWith "_p.c".toList name.toList ||
      name = "dlldata.c" then some .idlGenerated
  else if extension = "lib" then some .librarySource
  else none

/-- Whether a filter holds generated files, by the names that it has in English and German. -/
def isGeneratedFilter (name : String) : Bool :=
  ["Generated Files", "Generierte Dateien"].any (Text.sameLetters · (trimmed name))

/-- Why the files of a filter are left out, if they are: generated files come before files that
are not tracked. -/
def filterSkipReason? (name : String) (isTracked : Bool) : Option SkipReason :=
  if isGeneratedFilter name then some .generatedFilesFilter
  else if isTracked then none
  else some .notSourceControlled

example : skipReason? "gen/generated_parser.Y" = some .junkExtension := by decide
example : skipReason? "server_i.c" = some .idlGenerated ∧ skipReason? "src/main.cpp" = none := by
  decide

end ProjectScribe.Reading
