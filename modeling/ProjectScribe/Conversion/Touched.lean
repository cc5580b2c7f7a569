import ProjectScribe.Conversion.ProjectFile
import ProjectScribe.Conversion.Job

/-!
# The files that a job touches

A job reads the project file, its companion if it is in the newer format, and the mapping tables
beside the project and below the root directory. It writes its output and the backup of that.
-/
namespace ProjectScribe.Conversion

/-- The names of the files that hold mapping tables. -/
def tableNames : List String :=
  ["include_mappings.txt", "dependency_mappings.txt", "library_directory_mappings.txt",
    "define_mappings.txt"]

/-- The companion that a job reads, if it reads one. -/
def Job.companionPaths (job : Job) : List String :=
  if Reading.dialectOf job.projectFile = some .vcxproj then
    [Reading.companionPath job.projectFile]
  else []

/-- The paths that a job reads. -/
def Job.readPaths (job : Job) (settings : Settings) : List String :=
  job.projectFile :: job.companionPaths ++
    tableNames.map (Path.join (settings.localMappingDir (Path.directory job.projectFile))) ++
    tableNames.map (Path.join settings.rootMappingDir)

/-- The paths that a job writes. -/
def Job.writtenPaths (job : Job) : List String := [job.output, Storage.backupPath job.output]

/-- All paths that a job touches. -/
def Job.paths (job : Job) (settings : Settings) : List String :=
  job.readPaths settings ++ job.writtenPaths

end ProjectScribe.Conversion
