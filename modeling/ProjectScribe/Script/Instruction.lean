import ProjectScribe.Script.Quoting
import ProjectScribe.Text.Pieces

/-!
# Instructions and their layout

A script is a list of instructions. Conditions open and close blocks, and every block is two
blanks deeper than the lines around it. A command stands on one line if that has at most a hundred
bytes, and else has a line for each argument.
-/
namespace ProjectScribe.Script

/-- One instruction of a script. -/
inductive Instruction where
  /-- A line as it is. -/
  | line (text : String)
  /-- An empty line. -/
  | blank
  /-- A comment, with a line for each line of its text. -/
  | comment (text : String)
  /-- A command whose arguments are quoted if they need it. -/
  | command (name : String) (arguments : List String)
  /-- A command whose arguments are written as they are. -/
  | verbatim (name : String) (arguments : List String)
  /-- The start of a block under a condition. -/
  | openIf (condition : String)
  /-- The start of the other part of a block. -/
  | orElse
  /-- The end of a block. -/
  | closeIf
deriving DecidableEq, Repr

namespace Instruction

/-- How many bytes a command may take on one line, with the blanks before it. -/
def longest : Nat := 100

/-- The blanks before a line at a depth. -/
def margin (depth : Nat) : String := String.ofList (List.replicate (2 * depth) ' ')

/-- A line at a depth. An empty line has no blanks before it. -/
def lineAt (depth : Nat) (text : String) : String :=
  if text = "" then "\n" else margin depth ++ text ++ "\n"

/-- Several lines at a depth. -/
def linesAt (depth : Nat) (texts : List String) : String :=
  String.join (texts.map (lineAt depth))

/-- A command at a depth, with arguments as they are written. -/
def commandAt (depth : Nat) (name : String) (arguments : List String) : String :=
  let single := name ++ "(" ++ " ".intercalate arguments ++ ")"
  if single.utf8ByteSize + 2 * depth ≤ longest || arguments.length < 2 then lineAt depth single
  else
    lineAt depth (name ++ "(") ++ linesAt (depth + 1) arguments ++ lineAt depth ")"

/-- The lines of a comment. -/
def commentLines (text : String) : List String :=
  (Text.lines text.toList).map fun line =>
    if line.isEmpty then "#" else "# " ++ String.ofList line

/-- The text of an instruction at a depth. -/
def textAt (depth : Nat) : Instruction → String
  | line text => lineAt depth text
  | blank => "\n"
  | comment text => linesAt depth (commentLines text)
  | command name arguments => commandAt depth name (arguments.map argument)
  | verbatim name arguments => commandAt depth name arguments
  | openIf condition => lineAt depth ("if(" ++ condition ++ ")")
  | orElse => lineAt (depth - 1) "else()"
  | closeIf => lineAt (depth - 1) "endif()"

/-- The depth after an instruction at a depth. -/
def depthAfter (depth : Nat) : Instruction → Nat
  | openIf _ => depth + 1
  | orElse => depth - 1 + 1
  | closeIf => depth - 1
  | _ => depth

/-- A command with a list of arguments after others, or nothing if the list is empty. -/
def listed (name : String) (head items : List String) : List Instruction :=
  if items.isEmpty then [] else [command name (head ++ items)]

/-- A variable set to a value. -/
def setVariable (name value : String) : Instruction := command "set" [name, value]

/-- A variable set to a list, unless the list is empty. -/
def setList (name : String) (items : List String) : List Instruction := listed "set" [name] items

/-- A file included; one that is optional may be missing. -/
def includeFile (file : String) (isOptional : Bool) : Instruction :=
  command "include" (if isOptional then [file, "OPTIONAL"] else [file])

/-- Values added to a property of a target, unless there are none. -/
def appendProperty (target property : String) (values : List String) : List Instruction :=
  listed "set_property" ["TARGET", target, "APPEND", "PROPERTY", property] values

/-- A property of a target set to a value. -/
def setProperty (target property value : String) : Instruction :=
  command "set_property" ["TARGET", target, "PROPERTY", property, value]

/-- The start of a block, if there is a condition. -/
def openIf? (condition : Option String) : List Instruction := condition.toList.map openIf

/-- The start of the other part of a block, if there is a condition. -/
def orElse? (condition : Option String) : List Instruction := condition.toList.map fun _ => orElse

/-- The end of a block, if there is a condition. -/
def closeIf? (condition : Option String) : List Instruction :=
  condition.toList.map fun _ => closeIf

/-- Instructions in a block under a condition, or as they are without one. -/
def under (condition : Option String) (body : List Instruction) : List Instruction :=
  openIf? condition ++ body ++ closeIf? condition

end Instruction

/-- The text of instructions that start at a depth. -/
def textFrom (depth : Nat) : List Instruction → String
  | [] => ""
  | instruction :: rest =>
    instruction.textAt depth ++ textFrom (instruction.depthAfter depth) rest

/-- The depth after instructions that start at a depth. -/
def depthFrom (depth : Nat) (instructions : List Instruction) : Nat :=
  instructions.foldl Instruction.depthAfter depth

/-- The text of a script. -/
def text (instructions : List Instruction) : String := textFrom 0 instructions

theorem textFrom_append (depth : Nat) (first second : List Instruction) :
    textFrom depth (first ++ second) =
      textFrom depth first ++ textFrom (depthFrom depth first) second := by
  induction first generalizing depth with
  | nil => simp [textFrom, depthFrom]
  | cons instruction rest inductionHypothesis =>
    simp [textFrom, depthFrom, inductionHypothesis, String.append_assoc]

theorem depthFrom_append (depth : Nat) (first second : List Instruction) :
    depthFrom depth (first ++ second) = depthFrom (depthFrom depth first) second := by
  simp [depthFrom]

example : text (Instruction.under (some "WIN32") [.command "set" ["A", "1"]]) =
    "if(WIN32)\n  set(A 1)\nendif()\n" := by decide

end ProjectScribe.Script
