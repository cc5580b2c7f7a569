import ProjectScribe.Json.Value
import ProjectScribe.Text.Pieces

/-!
# JSON texts over several lines

Every item and every member stands on a line of its own, two blanks deeper than the bracket that
opens its list; an empty list is two brackets. In strings only quotes, backslashes and control
characters are escaped.
-/
namespace ProjectScribe.Json

/-- A hexadecimal digit in lower case. -/
def hexDigit (n : Nat) : Char := if n < 10 then Char.ofNat (48 + n) else Char.ofNat (87 + n)

/-- How a character is written between quotes. -/
def escaped (c : Char) : List Char :=
  if c = '"' then ['\\', '"']
  else if c = '\\' then ['\\', '\\']
  else if c = '\n' then ['\\', 'n']
  else if c = '\r' then ['\\', 'r']
  else if c = '\t' then ['\\', 't']
  else if c.toNat = 8 then ['\\', 'b']
  else if c.toNat = 12 then ['\\', 'f']
  else if c.toNat < 32 then
    ['\\', 'u', '0', '0', hexDigit (c.toNat / 16), hexDigit (c.toNat % 16)]
  else [c]

/-- The text of a string between quotes. -/
def quoted (content : Content) : List Char :=
  '"' :: (content.getD "").toList.flatMap escaped ++ ['"']

/-- A new line with the blanks of a depth. -/
def newLine (depth : Nat) : List Char := '\n' :: List.replicate (2 * depth) ' '

/-- The entries of a list between its brackets, each on a line of its own. -/
def bracketed (opening closing : Char) (depth : Nat) : List (List Char) → List Char
  | [] => [opening, closing]
  | first :: others =>
    opening :: newLine (depth + 1) ++
      Text.join (',' :: newLine (depth + 1)) (first :: others) ++ newLine depth ++ [closing]

mutual

/-- A value whose first line stands at a depth. -/
def Value.pretty (depth : Nat) : Value → List Char
  | .null => "null".toList
  | .boolean true => "true".toList
  | .boolean false => "false".toList
  | .number literal => literal.toList
  | .string content => quoted content
  | .array items => bracketed '[' ']' depth (prettyItems (depth + 1) items)
  | .object members => bracketed '\x7b' '\x7d' depth (prettyMembers (depth + 1) members)

/-- The items of an array. -/
def prettyItems (depth : Nat) : List Value → List (List Char)
  | [] => []
  | value :: others => value.pretty depth :: prettyItems depth others

/-- The members of an object, each with its name. -/
def prettyMembers (depth : Nat) : List (Content × Value) → List (List Char)
  | [] => []
  | (name, value) :: others =>
    (quoted name ++ ": ".toList ++ value.pretty depth) :: prettyMembers depth others

end

/-- A value as a text over several lines. -/
def Value.lines (value : Value) : String := String.ofList (value.pretty 0)

example : (Value.array []).lines = "[]" := by decide
example : (Value.record [("a", .texts ["x\"y"])]).lines =
    "\x7b\n  \"a\": [\n    \"x\\\"y\"\n  ]\n\x7d" := by decide

end ProjectScribe.Json
