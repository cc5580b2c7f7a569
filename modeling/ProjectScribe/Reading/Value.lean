import ProjectScribe.Text.Blank
import ProjectScribe.Text.Pieces
import ProjectScribe.Text.Letters
import ProjectScribe.Path.Normal

/-!
# Values of options

How the text of an option is taken apart: lists with separators, words, switches, definitions and
names of libraries.
-/
namespace ProjectScribe.Reading

/-- The double quote, which may stand around values. -/
def isQuote (c : Char) : Bool := c == '"'

/-- The separators of the older format's lists. -/
def isListMark (c : Char) : Bool := c == ';' || c == ','

/-- The separator of the newer format's lists. -/
def isSemicolon (c : Char) : Bool := c == ';'

/-- An item of a list without the blanks and quotes around it. -/
def bareItem (item : List Char) : List Char := Text.trim (Text.strip isQuote (Text.trim item))

/-- The items of a list that are not empty when they are bare. -/
def items (isSeparator : Char → Bool) (value : String) : List String :=
  (((Text.pieces isSeparator value.toList).map bareItem).filter (!·.isEmpty)).map String.ofList

/-- The words of a value. -/
def words (value : String) : List String := (Text.words value.toList).map String.ofList

/-- Whether an item stands for the values that a configuration inherits. -/
def isInherited (item : String) : Bool := Text.startsWith "%(".toList item.toList

/-- The items of a list without those that stand for inherited values. -/
def ownItems (value : String) : List String := (items isSemicolon value).filter (!isInherited ·)

/-- The words of a value without those that stand for inherited values. -/
def ownWords (value : String) : List String := (words value).filter (!isInherited ·)

/-- A value without the blanks around it. -/
def trimmed (value : String) : String := String.ofList (Text.trim value.toList)

/-- Whether a switch is on. -/
def isYes (value : String) : Bool := Text.lower (trimmed value) ∈ ["true", "1", "yes"]

/-- Whether a switch of three positions is on: `0` leaves it to the tool, `1` is off, `2` on. -/
def isOn (value : String) : Bool := trimmed value = "2" || Text.sameLetters (trimmed value) "true"

/-- The key and the value of a definition, which an equals sign separates. -/
def definition (item : String) : String × String :=
  match Text.cutAt '=' item.toList with
  | some (key, value) => (String.ofList (Text.trim key), String.ofList (Text.trim value))
  | none => (trimmed item, "")

/-- The name of a library without the extension `.lib`, unless that is all of it. -/
def libraryName (name : String) : String :=
  let bare := Text.strip isQuote (Text.trim name.toList)
  let ending := bare.drop (bare.length - 4)
  if 4 < bare.length && ending.map Text.lowerChar = ".lib".toList then
    String.ofList (bare.take (bare.length - 4))
  else String.ofList bare

example : items isListMark "a;b, \"c d\";;" = ["a", "b", "c d"] := by decide
example : libraryName "Foo.LIB" = "Foo" ∧ libraryName ".lib" = ".lib" := by decide
example : definition "X=a=b" = ("X", "a=b") := by decide

end ProjectScribe.Reading
