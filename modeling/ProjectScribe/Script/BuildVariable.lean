import ProjectScribe.Report
import ProjectScribe.Text.Letters
import ProjectScribe.Text.Pieces

/-!
# Build variables

Project files refer to variables of their build as `$(Name)`. Each reference is replaced by the
expression that has this value in a script; a variable without one is taken from the environment.
All other text stays as it is.

A script that asks for the platform has to find it out first; the instructions for that are
`platformDerivation`.
-/
namespace ProjectScribe.Script

/-- What comes up while a script is written. -/
inductive Remark where
  /-- The script asks for the platform. -/
  | platformUsed
  /-- A variable of the environment stands for one that has no expression. -/
  | unknownVariable (project name : String)
  /-- A project has no target because it has nothing to compile. -/
  | noSources (project : String)
  /-- A project has no target because its kind is unknown. -/
  | noLinkLanguage (project : String)
deriving DecidableEq, Repr

/-- The record that a remark leaves in the log. -/
def Remark.record : Remark → Option LogRecord
  | platformUsed => none
  | unknownVariable project name =>
    some ⟨.warning, project ++ ": unknown build macro $(" ++ name ++
      "), falling back to environment variable"⟩
  | noSources project =>
    some ⟨.warning, project ++ ": no compilable sources, not creating a target"⟩
  | noLinkLanguage project =>
    some ⟨.warning, project ++ ": configuration type has no link language, not creating a target"⟩

/-- Part of a script, with the remarks made while it was written. -/
abbrev Draft := Reported Remark

/-- The variable that holds the platform. -/
def platformVariable : String := "V2C_BUILD_PLATFORM"

/-- The lines that find out the platform. -/
def platformDerivation : List String :=
  ["if(NOT V2C_BUILD_PLATFORM)",
    "  if(CMAKE_SIZEOF_VOID_P EQUAL 8)",
    "    set(V2C_BUILD_PLATFORM x64)",
    "  else()",
    "    set(V2C_BUILD_PLATFORM Win32)",
    "  endif()",
    "endif()"]

/-- A text cut into single characters and references to variables. -/
inductive Piece where
  | plain (c : Char)
  | variable (name : List Char)
deriving DecidableEq, Repr

/-- The name of a variable and what follows the parenthesis behind it. -/
def variableName? : List Char → Option (List Char × List Char)
  | [] => none
  | c :: rest =>
    if Text.isIdentifierStart c then
      match rest.dropWhile Text.isIdentifierRest with
      | ')' :: after => some (c :: rest.takeWhile Text.isIdentifierRest, after)
      | _ => none
    else none

theorem length_lt_of_variableName? {text name after : List Char}
    (found : variableName? text = some (name, after)) : after.length < text.length := by
  cases text with
  | nil => simp [variableName?] at found
  | cons c rest =>
    simp only [variableName?] at found
    split at found
    · split at found
      · next dropped =>
        simp only [Option.some.injEq, Prod.mk.injEq] at found
        obtain ⟨_, rfl⟩ := found
        have short := (List.dropWhile_sublist Text.isIdentifierRest (l := rest)).length_le
        rw [dropped] at short
        simp only [List.length_cons] at *
        omega
      · simp at found
    · simp at found

/-- The pieces of a text, of which no more are taken than the given number. -/
def piecesUpTo : Nat → List Char → List Piece
  | 0, _ => []
  | _, [] => []
  | steps + 1, '$' :: '(' :: rest =>
    match variableName? rest with
    | some (name, after) => .variable name :: piecesUpTo steps after
    | none => .plain '$' :: piecesUpTo steps ('(' :: rest)
  | steps + 1, c :: rest => .plain c :: piecesUpTo steps rest

/-- The pieces of a text. A text has at most as many pieces as characters. -/
def variablePieces (text : List Char) : List Piece := piecesUpTo text.length text

/-- The names by which texts refer to a project. -/
structure ProjectNames where
  /-- The name of the project. -/
  project : String
  /-- The name of the project file. -/
  file : String
deriving DecidableEq, Repr

/-- The expression for a variable, whose name is written without capitals, if it has one. -/
def expression? (names : ProjectNames) : String → Option String
  | "configurationname" | "configuration" => some "$\x7bCMAKE_CFG_INTDIR\x7d"
  | "platformname" | "platform" => some "$\x7bV2C_BUILD_PLATFORM\x7d"
  | "projectname" | "inputname" | "targetname" => some "$\x7bPROJECT_NAME\x7d"
  | "projectdir" => some "$\x7bPROJECT_SOURCE_DIR\x7d/"
  | "projectfilename" => some names.file
  | "outdir" => some "$\x7bCMAKE_CURRENT_BINARY_DIR\x7d/$\x7bCMAKE_CFG_INTDIR\x7d"
  | "solutiondir" => some "$\x7bV2C_MASTER_PROJECT_SOURCE_DIR\x7d/"
  | "targetpath" =>
    some "$\x7bCMAKE_CURRENT_BINARY_DIR\x7d/$\x7bCMAKE_CFG_INTDIR\x7d/$\x7bPROJECT_NAME\x7d"
  | _ => none

/-- Whether a variable, whose name is written without capitals, is the platform. -/
def isPlatform (name : String) : Bool := name ∈ ["platformname", "platform"]

/-- The text that stands in a script for a piece. -/
def translatePiece (names : ProjectNames) : Piece → Draft (List Char)
  | .plain c => pure [c]
  | .variable name =>
    let written := String.ofList name
    let lowered := Text.lower written
    match expression? names lowered with
    | some expression => do
      Reported.noteIf (isPlatform lowered) .platformUsed
      return expression.toList
    | none => do
      Reported.note (.unknownVariable names.project written)
      return ("$ENV\x7b" ++ written ++ "\x7d").toList

/-- A text with the expressions of scripts for the variables of builds. -/
def translate (names : ProjectNames) (text : String) : Draft String := do
  let parts ← Reported.forEach (translatePiece names) (variablePieces text.toList)
  return String.ofList parts.flatten

/-- Several texts with the expressions of scripts for the variables of builds. -/
def translateAll (names : ProjectNames) (texts : List String) : Draft (List String) :=
  Reported.forEach (translate names) texts

example : (translate ⟨"hello", "hello.vcproj"⟩ "$(SolutionDir)lib/$(ConfigurationName)").value =
    "$\x7bV2C_MASTER_PROJECT_SOURCE_DIR\x7d/lib/$\x7bCMAKE_CFG_INTDIR\x7d" := by decide
example : (translate ⟨"hello", "hello.vcproj"⟩ "out/$(platform)").notes = [.platformUsed] := by
  decide
example : (translate ⟨"p", ""⟩ "$(not closed $($(X) $5").value = "$(not closed $($ENV\x7bX\x7d $5" := by
  decide

end ProjectScribe.Script
