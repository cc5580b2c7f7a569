/-!
# Letters without case

Names of formats, options and filters are compared without regard to the case of the letters `A`
to `Z`; letters beyond them are compared as they are. Identifiers in scripts admit only those
letters, the digits and the underscore.
-/
namespace ProjectScribe.Text

/-- The lower case of `A` to `Z`; every other character stays as it is. -/
def lowerChar (c : Char) : Char := c.toLower

/-- A text with the letters `A` to `Z` in lower case. -/
def lower (text : String) : String := String.ofList (text.toList.map lowerChar)

/-- Equality of texts up to the case of the letters `A` to `Z`. -/
def sameLetters (left right : String) : Bool :=
  left.toList.map lowerChar == right.toList.map lowerChar

/-- The letters `A` to `Z` in both cases and the digits. -/
def isAlphanumeric (c : Char) : Bool := c.isAlphanum

/-- A letter or the underscore: how an identifier starts. -/
def isIdentifierStart (c : Char) : Bool := c.isAlpha || c == '_'

/-- A letter, a digit or the underscore: how an identifier goes on. -/
def isIdentifierRest (c : Char) : Bool := c.isAlphanum || c == '_'

theorem sameLetters_iff {left right : String} :
    sameLetters left right = true ↔ lower left = lower right := by
  simp [sameLetters, lower, ← String.toList_inj]

theorem sameLetters_refl (text : String) : sameLetters text text = true := by
  simp [sameLetters]

example : sameLetters "VCProj" "vcproj" = true := by decide
example : sameLetters "É" "é" = false := by decide

end ProjectScribe.Text
