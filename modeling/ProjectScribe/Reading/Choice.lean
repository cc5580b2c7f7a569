import ProjectScribe.Reading.Note
import ProjectScribe.Reading.Value
import ProjectScribe.Text.Numeral

/-!
# Options with a closed choice of values

The older format writes such a value as a number, the newer one as a symbol. One table serves
both: the place of a row is the number, and its name the symbol, up to case.
-/
namespace ProjectScribe.Reading

/-- The values that an option can have, and the one that holds otherwise. -/
structure Choice (α : Type) where
  option : String
  table : List (String × α)
  fallback : α

namespace Choice

variable {α : Type}

/-- The row for a value: by its place if the value is a number, and else by its symbol. -/
def row? (choice : Choice α) (value : String) : Option (String × α) :=
  match Text.numeral? value.toList with
  | some place => choice.table[place]?
  | none => choice.table.find? fun row => Text.sameLetters row.1 value

/-- What a value stands for. An empty value stands for the fallback, and so does one that the
option cannot have, which is noted. -/
def decode (choice : Choice α) (raw : String) : Reading α :=
  let value := trimmed raw
  if value = "" then pure choice.fallback
  else match choice.row? value with
    | some (_, meaning) => pure meaning
    | none => do
      Reported.note (.unrecognizedValue choice.option value)
      return choice.fallback

end Choice

/-- The kinds of targets. -/
def targetKinds : Choice TargetKind where
  option := "configuration type"
  table := [("Unknown", .unknown), ("Application", .application),
    ("DynamicLibrary", .dynamicLibrary), ("Makefile", .unknown), ("StaticLibrary", .staticLibrary)]
  fallback := .unknown

/-- The uses of a class library. -/
def libraryUsages : Choice LibraryUsage where
  option := "library usage"
  table := [("false", .notUsed), ("Static", .static), ("Dynamic", .dynamic)]
  fallback := .notUsed

/-- The character sets. -/
def characterSets : Choice CharacterSet where
  option := "character set"
  table := [("NotSet", .singleByte), ("Unicode", .unicode), ("MultiByte", .multiByte)]
  fallback := .singleByte

/-- The ways to handle exceptions. -/
def exceptionHandlings : Choice ExceptionHandling where
  option := "exception handling"
  table := [("false", .disabled), ("Sync", .sync), ("Async", .async), ("SyncCThrow", .syncCThrow)]
  fallback := .sync

/-- The optimizations. -/
def optimizations : Choice Optimization where
  option := "optimization"
  table := [("Disabled", .disabled), ("MinSpace", .minSpace), ("MaxSpeed", .maxSpeed),
    ("Full", .full)]
  fallback := .disabled

/-- The warning levels. -/
def warningLevels : Choice WarningLevel where
  option := "warning level"
  table := [("TurnOffAllWarnings", .off), ("Level1", .level1), ("Level2", .level2),
    ("Level3", .level3), ("Level4", .level4), ("EnableAllWarnings", .all)]
  fallback := .level3

/-- The ways to use precompiled headers. -/
def headerModes : Choice HeaderMode where
  option := "precompiled header mode"
  table := [("NotUsing", .notUsing), ("Create", .create), ("Use", .use)]
  fallback := .notUsing

/-- The run-time libraries. -/
def runtimeLibraries : Choice RuntimeLibrary where
  option := "runtime library"
  table := [("MultiThreaded", .multiThreaded), ("MultiThreadedDebug", .multiThreadedDebug),
    ("MultiThreadedDLL", .multiThreadedDll), ("MultiThreadedDebugDLL", .multiThreadedDebugDll)]
  fallback := .multiThreadedDll

/-- Whether a value names a run-time library for debugging. -/
def debugRuntime (raw : String) : Reading Bool := do
  return (← runtimeLibraries.decode raw).isDebug

example : (targetKinds.decode "4").value = .staticLibrary ∧
    (targetKinds.decode "staticlibrary").value = .staticLibrary := by decide
example : (targetKinds.decode "Utility").notes =
    [.unrecognizedValue "configuration type" "Utility"] := by decide

end ProjectScribe.Reading
