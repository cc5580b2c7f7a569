import ProjectScribe.Path.Components

/-!
# One path as seen from another

The relative path is found from the components alone: the common beginning is dropped, each name
left in the base is answered by two dots, and what is left of the target follows. Dots and double
dots left in the base are passed over.
-/
namespace ProjectScribe.Path

/-- How many components two paths have in common from the left. -/
def commonLength : List Component → List Component → Nat
  | a :: left, b :: right => if a = b then commonLength left right + 1 else 0
  | _, _ => 0

/-- Whether a component is a name, which one step up undoes. -/
def Component.isName : Component → Bool
  | .name _ => true
  | _ => false

/-- The components of the relative path between two lists of components. -/
def relativeComponents (target base : List Component) : List Component :=
  let common := commonLength target base
  ((base.drop common).filter Component.isName).map (fun _ => .up) ++ target.drop common

/-- The target as seen from the base. There is none when only one of them starts with a slash. -/
def relative (target base : String) : Option String :=
  if isRooted target != isRooted base then none
  else some ((relativeComponents (components target) (components base)).foldl
    (fun path component => join path component.text) "")

example : relative "/src/app" "/src/lib" = some "../app" := by decide
example : relative "app" "/src" = none := by decide
example : relative "." "a" = some "../." := by decide

end ProjectScribe.Path
