import ProjectScribe.Text.Pieces

/-!
# XML characters and names

The characters that may stand in a document, those of which names are made, and the two kinds of
names: plain ones, in which a colon is a letter, and qualified ones, in which a single colon
separates a qualifier.
-/
namespace ProjectScribe.Xml

/-- Blank, tab, line feed and carriage return. -/
def isSpace (c : Char) : Bool := c == ' ' || c == '\t' || c == '\n' || c == '\r'

/-- Whether a character may stand in a document. -/
def isAllowed (c : Char) : Bool :=
  if c.toNat < 0x20 then isSpace c else c.toNat != 0xFFFE && c.toNat != 0xFFFF

/-- The ranges of letters beyond the first 128 characters with which names may start. -/
def startRanges : List (Nat × Nat) :=
  [(0xC0, 0xD6), (0xD8, 0xF6), (0xF8, 0x2FF), (0x370, 0x37D), (0x37F, 0x1FFF), (0x200C, 0x200D),
    (0x2070, 0x218F), (0x2C00, 0x2FEF), (0x3001, 0xD7FF), (0xF900, 0xFDCF), (0xFDF0, 0xFFFD),
    (0x10000, 0xEFFFF)]

/-- The ranges beyond the first 128 characters that may follow in a name but not start it. -/
def furtherRanges : List (Nat × Nat) := [(0xB7, 0xB7), (0x300, 0x36F), (0x203F, 0x2040)]

/-- Whether a character lies in one of some ranges. -/
def isWithin (ranges : List (Nat × Nat)) (c : Char) : Bool :=
  ranges.any fun (first, last) => first ≤ c.toNat && c.toNat ≤ last

/-- Whether a name may start with a character. -/
def isNameStart (c : Char) : Bool :=
  c.isAlpha || c == ':' || c == '_' || isWithin startRanges c

/-- Whether a character may stand in a name. -/
def isNameChar (c : Char) : Bool :=
  isNameStart c || c.isDigit || c == '-' || c == '.' || isWithin furtherRanges c

/-- A name with its qualifier, which is empty if there is none. -/
structure Name where
  qualifier : List Char
  localPart : List Char
deriving DecidableEq, Repr

/-- A text that is empty or starts as a name does. -/
def startsAsName : List Char → Bool
  | [] => true
  | c :: _ => isNameStart c

/-- The qualified name that a run of name characters is, if it has at most one colon. -/
def Name.ofRun? (run : List Char) : Option Name :=
  let name := match Text.cutAt ':' run with
    | some (qualifier, localPart) => ⟨qualifier, localPart⟩
    | none => ⟨[], run⟩
  if name.localPart.isEmpty || name.localPart.contains ':' || !startsAsName name.qualifier ||
      !startsAsName name.localPart then none
  else some name

/-- A qualified name and what follows it. -/
def Name.read? (text : List Char) : Option (Name × List Char) :=
  (Name.ofRun? (text.takeWhile isNameChar)).map (·, text.dropWhile isNameChar)

/-- A plain name and what follows it. -/
def readPlainName (text : List Char) : Option (List Char × List Char) :=
  match text with
  | [] => none
  | c :: rest =>
    if isNameStart c then some (c :: rest.takeWhile isNameChar, rest.dropWhile isNameChar) else none

/-- What follows the spaces at the start of a text. -/
def skipSpaces (text : List Char) : List Char := text.dropWhile isSpace

end ProjectScribe.Xml
