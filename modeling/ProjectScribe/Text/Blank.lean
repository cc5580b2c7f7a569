/-!
# Blanks

The blanks are the twenty-five characters with the Unicode property `White_Space`. Everything
that trims a value, cuts it into words or decides about quoting uses this one class.

Trimming removes the blanks at the ends and nothing else; the words of a text are its maximal
runs of other characters.
-/
namespace ProjectScribe.Text

/-- The characters with the Unicode property `White_Space`. -/
def isBlank (c : Char) : Bool :=
  let n := c.toNat
  (9 ≤ n && n ≤ 13) || n == 32 || n == 0x85 || n == 0xA0 || n == 0x1680 ||
    (0x2000 ≤ n && n ≤ 0x200A) || n == 0x2028 || n == 0x2029 || n == 0x202F ||
    n == 0x205F || n == 0x3000

/-- Remove from the end every character of the class, up to the first one outside it. -/
def dropEndWhile (drop : Char → Bool) (text : List Char) : List Char :=
  (text.reverse.dropWhile drop).reverse

/-- Remove the characters of a class from both ends. -/
def strip (drop : Char → Bool) (text : List Char) : List Char :=
  dropEndWhile drop (text.dropWhile drop)

/-- Remove the blanks at both ends. -/
def trim (text : List Char) : List Char := strip isBlank text

/-- A text that is empty after trimming. -/
def isAllBlank (text : List Char) : Bool := text.all isBlank

/-- The words of a text, read from the left: `current` holds the word under way, backwards. -/
def wordsFrom (current : List Char) : List Char → List (List Char)
  | [] => if current.isEmpty then [] else [current.reverse]
  | c :: rest =>
    if isBlank c then
      if current.isEmpty then wordsFrom [] rest else current.reverse :: wordsFrom [] rest
    else wordsFrom (c :: current) rest

/-- The maximal runs of characters that are no blanks, in order. -/
def words (text : List Char) : List (List Char) := wordsFrom [] text

@[simp] theorem trim_nil : trim [] = [] := rfl

example : trim " a b\t".toList = "a b".toList := rfl
example : words " a  b\tc ".toList = ["a".toList, "b".toList, "c".toList] := rfl

end ProjectScribe.Text
