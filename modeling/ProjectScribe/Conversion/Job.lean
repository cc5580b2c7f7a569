import ProjectScribe.Path.Components
import ProjectScribe.Path.Normal
import ProjectScribe.Path.Relative
import ProjectScribe.Settings.Basic

/-!
# Jobs

A job is a project file and the file into which its script is written, which stands beside it
unless another is given.
-/
namespace ProjectScribe.Conversion

/-- The name of scripts. -/
def scriptName : String := "CMakeLists.txt"

/-- A project file and the file for its script. -/
structure Job where
  projectFile : String
  output : String
deriving DecidableEq, Repr

/-- The job for a project file whose script stands beside it. -/
def Job.beside (projectFile : String) : Job :=
  ⟨projectFile, Path.join (Path.directory projectFile) scriptName⟩

/-- The job for a project file, with its script in a given file or else beside it. -/
def Job.make (projectFile : String) : Option String → Job
  | none => Job.beside projectFile
  | some output => ⟨projectFile, output⟩

/-- How a script names its project file: as seen from the root directory, or by its file name if
it cannot be seen from there. -/
def originName (projectFile : String) (settings : Settings) : String :=
  match Path.relative projectFile settings.rootDir with
  | none | some "" => (Path.fileName projectFile).getD ""
  | some relative => Path.normal relative

example : (Job.beside "a/b/app.vcproj").output = "a/b/CMakeLists.txt" ∧
    (Job.beside "app.vcproj").output = "./CMakeLists.txt" := by decide
example : originName "/src/app/hello.vcproj" { root := some "/src" } = "app/hello.vcproj" := by
  decide

end ProjectScribe.Conversion
