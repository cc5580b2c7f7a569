/-!
# XML elements

What is kept of an XML document: its elements with their names, their attributes and the text
with which they begin. Names are kept without their qualifiers, since nothing is ever looked up by
its name space: `m:Label` is found as `Label`. Declarations of name spaces are no attributes.
-/
namespace ProjectScribe.Xml

/-- An attribute with its name and its normalized value. -/
structure Attribute where
  name : String
  value : String
deriving DecidableEq, Repr

/-- An element. Its text is the character data before its first child of any other kind. -/
inductive Element where
  | mk (name : String) (attributes : List Attribute) (text : String) (children : List Element)

namespace Element

/-- The name of an element. -/
def name : Element → String
  | mk name _ _ _ => name

/-- The attributes of an element in the order in which they are written. -/
def attributes : Element → List Attribute
  | mk _ attributes _ _ => attributes

/-- The text with which an element begins. -/
def text : Element → String
  | mk _ _ text _ => text

/-- The elements directly below an element. -/
def children : Element → List Element
  | mk _ _ _ children => children

/-- The value of the first attribute with a name, whatever qualifier it is written with. -/
def value? (element : Element) (name : String) : Option String :=
  (element.attributes.find? (·.name = name)).map (·.value)

/-- The value of the first attribute with a name, or the empty text. -/
def valueOf (element : Element) (name : String) : String := (element.value? name).getD ""

mutual

/-- An element and all elements below it, each before those below it. -/
def withDescendants : Element → List Element
  | mk name attributes text children =>
    mk name attributes text children :: descendantsOf children

/-- Several elements, each with all elements below it. -/
def descendantsOf : List Element → List Element
  | [] => []
  | child :: others => child.withDescendants ++ descendantsOf others

end

end Element

end ProjectScribe.Xml
