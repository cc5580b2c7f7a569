/-!
# JSON values

A number keeps the literal with which it is written, so no digit is lost. An object keeps its
members in the order in which they are written, repeated names included.
-/
namespace ProjectScribe.Json

/-- The text that a string stands for; none if its escapes name half of a surrogate pair. -/
abbrev Content := Option String

/-- A JSON value. -/
inductive Value where
  | null
  | boolean (value : Bool)
  | number (literal : String)
  | string (content : Content)
  | array (items : List Value)
  | object (members : List (Content × Value))

namespace Value

/-- A text as a value. -/
def text (content : String) : Value := .string (some content)

/-- A text or null. -/
def optionalText : Option String → Value
  | none => .null
  | some content => .text content

/-- A natural number as a value. -/
def natural (n : Nat) : Value := .number (toString n)

/-- An object whose member names are texts. -/
def record (members : List (String × Value)) : Value :=
  .object (members.map fun (name, value) => (some name, value))

/-- A list of texts as a value. -/
def texts (contents : List String) : Value := .array (contents.map .text)

end Value

end ProjectScribe.Json
