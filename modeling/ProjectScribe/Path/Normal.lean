import ProjectScribe.Text.Blank
import ProjectScribe.Text.Pieces

/-!
# The normal form of paths in project files

Project files separate directories by backslashes, and often begin a path with a dot. The normal
form has no blanks at the ends of the written path, slashes for backslashes, and no leading dot
components.
-/
namespace ProjectScribe.Path

/-- Remove a leading dot component as often as there is one. -/
def dropDots : List Char → List Char
  | '.' :: '/' :: rest => dropDots rest
  | path => path

/-- A path without leading dot components. -/
def withoutDots (path : String) : String := String.ofList (dropDots path.toList)

/-- A backslash becomes a slash. -/
def slashed (c : Char) : Char := if c = '\\' then '/' else c

/-- The normal form of a path: trimmed, with slashes, without leading dot components. -/
def normal (path : String) : String :=
  String.ofList (dropDots ((Text.trim path.toList).map slashed))

example : normal ".\\src\\main.cpp" = "src/main.cpp" := by decide
example : normal "././a/b.c" = "a/b.c" := by decide
example : normal "./ a" = " a" := by decide

end ProjectScribe.Path
