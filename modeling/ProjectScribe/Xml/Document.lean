import ProjectScribe.Xml.Characters
import ProjectScribe.Xml.Element

/-!
# Reading XML documents

A document is one element with comments and instructions around it, after an optional
declaration. Document types are not admitted, every qualifier has to be declared, and no element
has two attributes of one name. A text that breaks a rule has no document.
-/
namespace ProjectScribe.Xml

/-- The name space of the qualifier `xml`. -/
def xmlSpace : String := "http://www.w3.org/XML/1998/namespace"

/-- The name space of the qualifier `xmlns`. -/
def declarationSpace : String := "http://www.w3.org/2000/xmlns/"

/-- The qualifier of declarations. -/
def declaring : List Char := "xmlns".toList

/-- The declared qualifiers with their name spaces, the innermost first. The empty qualifier
stands for the name space of names without one. -/
abbrev Scope := List (List Char × String)

/-- An attribute as a start tag writes it. -/
structure Writing where
  name : Name
  value : String

/-- The declaration that an attribute makes, if it is one; none overall if it may not make it. -/
def Writing.declaration (writing : Writing) : Option (Option (List Char × String)) :=
  if writing.name.qualifier = declaring then
    if writing.value = declarationSpace then none
    else if decide (writing.name.localPart = "xml".toList) != decide (writing.value = xmlSpace) then none
    else some (some (writing.name.localPart, writing.value))
  else if writing.name.localPart = declaring then
    if writing.value = xmlSpace || writing.value = declarationSpace then none
    else some (some ([], writing.value))
  else some none

/-- The declarations and the other attributes of a start tag. The qualifier `xml` is not declared
anew, and no other qualifier is declared twice. -/
def sortWritings : List Writing → Option (Scope × List Writing)
  | [] => some ([], [])
  | writing :: rest => do
    let declaration ← writing.declaration
    let (declared, attributes) ← sortWritings rest
    match declaration with
    | none => return (declared, writing :: attributes)
    | some (qualifier, space) =>
      if qualifier = "xml".toList then return (declared, attributes)
      else if !qualifier.isEmpty && declared.any (·.1 = qualifier) then none
      else return ((qualifier, space) :: declared, attributes)

/-- The name space of a qualifier in a scope. -/
def Scope.find? (scope : Scope) (qualifier : List Char) : Option String :=
  (List.find? (·.1 = qualifier) scope).map (·.2)

/-- The name space of an attribute: none without a qualifier, none overall if its qualifier is not
declared. -/
def Scope.ofAttribute (scope : Scope) (name : Name) : Option (Option String) :=
  if name.qualifier.isEmpty then some none
  else if name.qualifier = "xml".toList then some (some xmlSpace)
  else (scope.find? name.qualifier).map some

/-- The attributes of a tag without their qualifiers, if all of those are declared and no two
attributes have one name in one name space. -/
def Scope.attributes (scope : Scope) (writings : List Writing) : Option (List Attribute) := do
  let spaces ← writings.mapM fun writing => scope.ofAttribute writing.name
  let names := spaces.zip (writings.map (·.name.localPart))
  if names.Nodup then
    return writings.map fun writing => ⟨String.ofList writing.name.localPart, writing.value⟩
  else none

example : Scope.attributes [("m".toList, "urn:m")] [⟨⟨"m".toList, "Name".toList⟩, "cl"⟩] =
    some [⟨"Name", "cl"⟩] := by decide

/-- What follows an equals sign with spaces around it. -/
def skipEquals (text : List Char) : Option (List Char) :=
  match skipSpaces text with
  | '=' :: rest => some (skipSpaces rest)
  | _ => none

/-- A value between quotes, as it is written, and what follows it. -/
def readQuoted : List Char → Option (List Char × List Char)
  | quote :: rest => do
    if quote != '"' && quote != '\'' then none
    else
      let (value, rest) ← Text.cutAt quote rest
      if value.all (fun c => isAllowed c && c != '<') then some (value, rest) else none
  | [] => none

/-- A name, an equals sign and a value, and what follows them. -/
def readPair (text : List Char) : Option (Name × List Char × List Char) := do
  let (name, rest) ← Name.read? text
  let (value, rest) ← readQuoted (← skipEquals rest)
  return (name, value, rest)

/-- The attributes of a start tag; whether the tag is its own end; and what follows the tag. -/
def readAttributes : Nat → List Char → Option (List Writing × Bool × List Char)
  | 0, _ => none
  | steps + 1, text =>
    match skipSpaces text with
    | '/' :: '>' :: rest => some ([], true, rest)
    | '>' :: rest => some ([], false, rest)
    | rest => do
      if !(text.head?.any isSpace) then none
      else
        let (name, raw, rest) ← readPair rest
        let value ← attributeValue raw
        let (others, isEmpty, rest) ← readAttributes steps rest
        return (⟨name, String.ofList value⟩ :: others, isEmpty, rest)

/-- What follows a comment, read after its opening. -/
def skipComment (text : List Char) : Option (List Char) := do
  let (comment, rest) ← Text.cutAtText "-->".toList text
  if comment.all isAllowed && (Text.cutAtText "--".toList comment).isNone &&
      comment.getLast? != some '-' then some rest
  else none

/-- What follows an instruction, read after its opening. An instruction cannot be a declaration. -/
def skipInstruction (text : List Char) : Option (List Char) := do
  if Text.startsWith "xml ".toList text then none
  else
    let (_, rest) ← readPlainName text
    let (content, rest) ← Text.cutAtText "?>".toList rest
    if content.all isAllowed then some rest else none

/-- The text of a section, read after its opening, and what follows the section. -/
def readSection (text : List Char) : Option (List Char × List Char) := do
  let (content, rest) ← Text.cutAtText "]]>".toList text
  if content.all isAllowed then some (literalData content, rest) else none

/-- Character data up to the next tag, and what follows it. -/
def readCharacters (text : List Char) : Option (List Char × List Char) := do
  let content := text.takeWhile (· != '<')
  if content.all isAllowed && (Text.cutAtText "]]>".toList content).isNone then
    return (← characterData content, text.dropWhile (· != '<'))
  else none

/-- What stands between a start tag and its end tag. -/
inductive Node where
  | characters (text : List Char)
  | element (element : Element)
  | aside

/-- The character data at the start of a list of nodes. -/
def leadingText : List Node → List Char
  | .characters text :: rest => text ++ leadingText rest
  | _ => []

/-- The elements among nodes. -/
def elementsAmong : List Node → List Element
  | [] => []
  | .element element :: rest => element :: elementsAmong rest
  | _ :: rest => elementsAmong rest

mutual

/-- An element, read after the angle bracket that opens its start tag, and what follows it. -/
def readElement : Nat → Scope → List Char → Option (Element × List Char)
  | 0, _, _ => none
  | steps + 1, outer, text => do
    let (name, rest) ← Name.read? text
    let (writings, isEmpty, rest) ← readAttributes (text.length + 1) rest
    let (declared, writings) ← sortWritings writings
    let scope : Scope := declared ++ outer
    let attributes ← scope.attributes writings
    if name.qualifier = declaring ||
        (!name.qualifier.isEmpty && (scope.find? name.qualifier).isNone) then none
    else if isEmpty then return (.mk (String.ofList name.localPart) attributes "" [], rest)
    else
      let (nodes, rest) ← readNodes steps scope name rest
      return (.mk (String.ofList name.localPart) attributes (String.ofList (leadingText nodes))
        (elementsAmong nodes), rest)

/-- What stands in an element up to its end tag, and what follows that. -/
def readNodes : Nat → Scope → Name → List Char → Option (List Node × List Char)
  | 0, _, _, _ => none
  | _, _, _, [] => none
  | steps + 1, scope, name, '<' :: rest =>
    match rest with
    | '/' :: rest => do
      let (closed, rest) ← Name.read? rest
      match skipSpaces rest with
      | '>' :: rest => if closed = name then some ([], rest) else none
      | _ => none
    | '?' :: rest => do
      let (nodes, rest) ← readNodes steps scope name (← skipInstruction rest)
      return (.aside :: nodes, rest)
    | '!' :: '-' :: '-' :: rest => do
      let (nodes, rest) ← readNodes steps scope name (← skipComment rest)
      return (.aside :: nodes, rest)
    | '!' :: rest => do
      let (text, rest) ← readSection (← Text.afterStart? "[CDATA[".toList rest)
      let (nodes, rest) ← readNodes steps scope name rest
      return (.characters text :: nodes, rest)
    | rest => do
      let (element, rest) ← readElement steps scope rest
      let (nodes, rest) ← readNodes steps scope name rest
      return (.element element :: nodes, rest)
  | steps + 1, scope, name, text => do
    let (text, rest) ← readCharacters text
    let (nodes, rest) ← readNodes steps scope name rest
    return (.characters text :: nodes, rest)

end

/-- What follows spaces, comments and instructions. -/
def skipAsides : Nat → List Char → Option (List Char)
  | 0, _ => none
  | steps + 1, text =>
    match skipSpaces text with
    | '<' :: '!' :: '-' :: '-' :: rest => skipComment rest >>= skipAsides steps
    | '<' :: '?' :: rest => skipInstruction rest >>= skipAsides steps
    | rest => some rest

/-- What follows the spaces inside a declaration. They may be missing only at its end. -/
def skipGap (text : List Char) : Option (List Char) :=
  match text with
  | [] => some []
  | '?' :: '>' :: _ => some text
  | c :: _ => if isSpace c then some (skipSpaces text) else none

/-- What follows a pair of a declaration that has to start with a given word. -/
def skipPair (start : List Char) (text : List Char) : Option (List Char) := do
  if Text.startsWith start text then
    let (_, _, rest) ← readPair text
    return rest
  else none

/-- What follows a pair of a declaration, and the spaces after it, if the pair is there. -/
def skipOptionalPair (start : List Char) (text : List Char) : Option (List Char) :=
  if Text.startsWith start text then skipPair start text >>= skipGap else some text

/-- What follows a declaration, read after its opening. -/
def skipDeclaration (text : List Char) : Option (List Char) := do
  let rest ← skipPair "version".toList (← skipGap text)
  let rest ← skipOptionalPair "encoding".toList (← skipGap rest)
  let rest ← if Text.startsWith "standalone".toList rest then skipPair "standalone".toList rest
    else some rest
  Text.afterStart? "?>".toList (skipSpaces rest)

/-- A text without the byte order mark that may start it. -/
def withoutMark : List Char → List Char
  | '\uFEFF' :: rest => rest
  | text => text

/-- The element that a document is, if the text is a document. -/
def Element.read? (text : String) : Option Element := do
  let text := withoutMark text.toList
  let steps := text.length + 1
  let rest ← if Text.startsWith "<?xml ".toList text then skipDeclaration (text.drop 5)
    else some text
  match ← skipAsides steps rest with
  | '<' :: rest =>
    let (element, rest) ← readElement (2 * steps) [] rest
    if (← skipAsides steps rest).isEmpty then some element else none
  | _ => none

end ProjectScribe.Xml
