import ProjectScribe.Text.Blank
import ProjectScribe.Text.Pieces
import ProjectScribe.Text.UpperCase
import ProjectScribe.Text.Letters

/-!
# Identifiers in scripts

Properties of one build type carry its name in capitals, with an underscore for each run of
blanks. Names of variables keep letters and digits and have underscores for everything else.
-/
namespace ProjectScribe.Script

/-- The identifier of a build type: its words in capitals with underscores between them. -/
def configurationIdentifier (buildType : String) : String :=
  String.ofList (Text.upper (Text.join ['_'] (Text.words buildType.toList)))

/-- The part of a variable's name that stands for any name. -/
def variablePart (name : String) : String :=
  String.ofList (name.toList.map fun c => if Text.isAlphanumeric c then c else '_')

example : configurationIdentifier "Unicode  Release\tStatic" = "UNICODE_RELEASE_STATIC" := by cbv
example : variablePart "Source Files\\Sub" = "Source_Files_Sub" := by decide

end ProjectScribe.Script
