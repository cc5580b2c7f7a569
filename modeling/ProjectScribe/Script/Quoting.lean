import ProjectScribe.Text.Blank

/-!
# Quoting arguments

A blank inside an argument separates it in two unless it stands between references to variables,
so an argument needs quotes if a blank in it has ordinary text beside it: any character but a
closing brace before it, or any character but a dollar sign after it. An empty argument needs
quotes too.
-/
namespace ProjectScribe.Script

/-- Whether a blank has ordinary text before it: `before` is the character to the left. -/
def splitsAfter (before c : Char) : Bool :=
  Text.isBlank c && !Text.isBlank before && before != '\x7d'

/-- Whether a blank has ordinary text after it: `after` is the character to the right. -/
def splitsBefore (c after : Char) : Bool :=
  Text.isBlank c && !Text.isBlank after && after != '$'

/-- Whether some blank in a text has ordinary text beside it. -/
def isSplit : List Char → Bool
  | left :: right :: rest =>
    splitsAfter left right || splitsBefore left right || isSplit (right :: rest)
  | _ => false

/-- Whether an argument has to be quoted to remain one argument. -/
def needsQuoting (argument : List Char) : Bool := argument.isEmpty || isSplit argument

/-- Whether an argument stands between double quotes. -/
def hasQuotes (argument : List Char) : Bool :=
  2 ≤ argument.length && argument.head? == some '"' && argument.getLast? == some '"'

/-- What stands between the quotes of an argument that has them. -/
def inside (argument : List Char) : List Char := argument.tail.dropLast

/-- An argument with quotes if it needs them, and without those that it has in vain. The quotes
of a list written with semicolons are never in vain. -/
def quoteIfNeeded (argument : List Char) : List Char :=
  if hasQuotes argument then
    if !needsQuoting (inside argument) && !argument.contains ';' then inside argument else argument
  else if needsQuoting argument then '"' :: argument ++ ['"']
  else argument

/-- A text as an argument, quoted if needed. -/
def argument (text : String) : String := String.ofList (quoteIfNeeded text.toList)

example : argument "a b" = "\"a b\"" ∧ argument "" = "\"\"" ∧ argument "\"plain\"" = "plain" := by
  decide
example : argument "$\x7bA\x7d $\x7bB\x7d" = "$\x7bA\x7d $\x7bB\x7d" := by decide
example : argument "\"a;b\"" = "\"a;b\"" := by decide

end ProjectScribe.Script
