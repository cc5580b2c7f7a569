import ProjectScribe.Xml.Name

/-!
# Character data and attribute values

References stand for characters. In character data every line end becomes a line feed; in
attribute values line ends and tabs become blanks. A character that a reference names is kept as
it is, and in character data so is the character after it.
-/
namespace ProjectScribe.Xml

/-- The value of a hexadecimal digit. -/
def digitValue (c : Char) : Option Nat :=
  if c.isDigit then some (c.toNat - 48)
  else if 'a' ≤ c ∧ c ≤ 'f' then some (c.toNat - 87)
  else if 'A' ≤ c ∧ c ≤ 'F' then some (c.toNat - 55)
  else none

/-- Whether a character is a digit of a base up to sixteen. -/
def isDigitOf (base : Nat) (c : Char) : Bool := (digitValue c).any (· < base)

/-- The character with a number. A number without a character stands for U+FFFD. -/
def characterOf (number : Nat) : Char :=
  if number.isValidChar then Char.ofNat number else '\uFFFD'

/-- The character that digits name, in a reference that ends with a semicolon. -/
def numberedCharacter (base : Nat) (text : List Char) : Option (Char × List Char) :=
  let digits := text.takeWhile (isDigitOf base)
  let number := digits.foldl (fun n d => n * base + (digitValue d).getD 0) 0
  match text.dropWhile (isDigitOf base) with
  | ';' :: rest =>
    let c := characterOf number
    if digits.isEmpty || UInt32.size ≤ number || !isAllowed c then none else some (c, rest)
  | _ => none

/-- The characters that have a name. -/
def namedCharacter (name : List Char) : Option Char :=
  if name = "quot".toList then some '"'
  else if name = "amp".toList then some '&'
  else if name = "apos".toList then some '\''
  else if name = "lt".toList then some '<'
  else if name = "gt".toList then some '>'
  else none

/-- The character for which a reference stands, read after its ampersand. -/
def readReference : List Char → Option (Char × List Char)
  | '#' :: 'x' :: rest => numberedCharacter 16 rest
  | '#' :: rest => numberedCharacter 10 rest
  | text => do
    let (name, rest) ← readPlainName text
    match rest with
    | ';' :: rest => (namedCharacter name).map (·, rest)
    | _ => none

/-- The value of an attribute as it is written between the quotes. -/
def attributeValueFrom : Nat → List Char → Option (List Char)
  | _, [] => some []
  | 0, _ => none
  | steps + 1, '&' :: rest => do
    let (c, rest) ← readReference rest
    let others ← attributeValueFrom steps rest
    return c :: others
  | steps + 1, '\r' :: '\n' :: rest => attributeValueFrom steps ('\n' :: rest)
  | steps + 1, c :: rest => do
    let others ← attributeValueFrom steps rest
    return (if isSpace c then ' ' else c) :: others

/-- The normalized value of an attribute. -/
def attributeValue (text : List Char) : Option (List Char) :=
  attributeValueFrom text.length text

/-- A character written after others, which are listed backwards. A carriage return that is
there already, or that ends the text, becomes a line feed; one before a line feed goes. -/
def writeCharacter (written : List Char) (c : Char) (isLast : Bool) : List Char :=
  match written with
  | '\r' :: before =>
    if isLast && c == '\r' then '\n' :: '\n' :: before
    else if c == '\n' then '\n' :: before
    else c :: '\n' :: before
  | _ => if isLast && c == '\r' then '\n' :: written else c :: written

/-- Character data with references, read from the left: `written` lists backwards what is there
already, and `keep` says that a reference stands just before. -/
def characterDataFrom : Nat → List Char → Bool → List Char → Option (List Char)
  | _, written, _, [] => some written.reverse
  | 0, _, _, _ => none
  | steps + 1, written, _, '&' :: rest => do
    let (c, rest) ← readReference rest
    characterDataFrom steps (c :: written) true rest
  | steps + 1, written, keep, c :: rest =>
    characterDataFrom steps
      (if keep then c :: written else writeCharacter written c rest.isEmpty) false rest

/-- The normalized form of character data. -/
def characterData (text : List Char) : Option (List Char) :=
  characterDataFrom text.length [] false text

/-- The normalized form of a section in which nothing is a reference. -/
def literalDataFrom (written : List Char) : List Char → List Char
  | [] => written.reverse
  | c :: rest => literalDataFrom (writeCharacter written c rest.isEmpty) rest

/-- The normalized form of a section in which nothing is a reference. -/
def literalData (text : List Char) : List Char := literalDataFrom [] text

example : characterData "a&lt;b\r\nc\r".toList = some "a<b\nc\n".toList := by decide
example : characterData "&#65;\rb".toList = some "A\nb".toList := by decide
example : characterData "&nbsp;".toList = none := by decide
example : attributeValue "a\r\n\tb&#10;".toList = some "a  b\n".toList := by decide

end ProjectScribe.Xml
