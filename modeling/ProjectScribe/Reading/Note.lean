import ProjectScribe.Project.Kinds
import ProjectScribe.Report

/-!
# What reading a project file has to say

Reading never stops at something it does not know. It takes a note instead, and each note is
logged as one record, or passed over in silence.
-/
namespace ProjectScribe

/-- Why a listed file is left out of the tree. -/
inductive SkipReason where
  | junkExtension
  | idlGenerated
  | librarySource
  | notSourceControlled
  | generatedFilesFilter
deriving DecidableEq, Repr

/-- A reason in words. -/
def SkipReason.describe : SkipReason → String
  | junkExtension => "generated or non-source file type"
  | idlGenerated => "generated by the IDL compiler at build time"
  | librarySource => "library listed as a source file, belongs to the link step"
  | notSourceControlled => "filter is not under source control"
  | generatedFilesFilter => "filter holds generated files"

/-- The name under which records of reading a format appear. -/
def Dialect.reader : Dialect → String
  | vcproj => "vcproj"
  | vcxproj => "vcxproj"

namespace Reading

/-- Something that came up while a project file was read. -/
inductive Note where
  /-- An attribute that an element does not have in this format. -/
  | unknownAttribute (dialect : Dialect) (owner name : String)
  /-- An element that does not belong where it stands. -/
  | unknownElement (dialect : Dialect) (owner name : String)
  /-- A file that is left out. -/
  | skipped (path : String) (reason : SkipReason)
  /-- A file that is kept but not built. -/
  | excluded (path : String)
  /-- A value that is none of those that an option can have. -/
  | unrecognizedValue (option value : String)
  /-- A condition of an unknown form. -/
  | unreadableCondition (condition : String)
  /-- A condition that holds for no configuration. -/
  | unmatchedCondition (condition : String)
  /-- A project in the companion file without one in the project file. -/
  | unmatchedCompanion (index : Nat)
  /-- A project file without a companion file. -/
  | noCompanion (path : String)
deriving DecidableEq, Repr

/-- The record that a note leaves in the log. Files of no use to a build go without one. -/
def Note.record : Note → Option LogRecord
  | unknownAttribute dialect owner name =>
    some ⟨.warning, dialect.reader ++ ": unknown attribute '" ++ name ++ "' on <" ++ owner ++ ">"⟩
  | unknownElement dialect owner name =>
    some ⟨.warning, dialect.reader ++ ": unknown element <" ++ name ++ "> in <" ++ owner ++ ">"⟩
  | skipped _ .junkExtension => none
  | skipped path reason => some ⟨.information, "Skipping " ++ path ++ ": " ++ reason.describe⟩
  | excluded path => some ⟨.information, path ++ " is excluded from the build"⟩
  | unrecognizedValue option value =>
    some ⟨.warning, "Unrecognized " ++ option ++ " value '" ++ value ++ "', using default"⟩
  | unreadableCondition condition =>
    some ⟨.warning, "vcxproj: cannot interpret condition " ++ condition⟩
  | unmatchedCondition condition =>
    some ⟨.warning, "vcxproj: condition " ++ condition ++ " matches no declared configuration"⟩
  | unmatchedCompanion index =>
    some ⟨.warning, "vcxproj: filters file has no matching project #" ++ toString index⟩
  | noCompanion path =>
    some ⟨.information, "No filters file " ++ path ++ ", files stay ungrouped"⟩

/-- Whether a note is about something that the format does not have. -/
def Note.isUnknown : Note → Bool
  | unknownAttribute .. | unknownElement .. => true
  | _ => false

/-- The records of several notes. -/
def records (notes : List Note) : List LogRecord := notes.filterMap Note.record

end Reading

/-- A value read from a project file, with the notes taken on the way. -/
abbrev Reading := Reported Reading.Note

end ProjectScribe
