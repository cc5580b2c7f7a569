import ProjectScribe.Json.Value
import ProjectScribe.Text.Pieces

/-!
# Reading JSON texts

The strict grammar: no trailing commas, no leading zeros, no control characters in strings, and
nothing but blanks after the value. A string whose escapes name half of a surrogate pair is
read, but has no content.
-/
namespace ProjectScribe.Json

/-- What follows blanks, tabs and line ends. -/
def skipBlanks (text : List Char) : List Char :=
  text.dropWhile fun c => c == ' ' || c == '\t' || c == '\n' || c == '\r'

/-- A piece of a string: a character, or one half of a surrogate pair. -/
inductive Piece where
  | char (c : Char)
  | half (unit : Nat)

/-- The text that pieces make up. Two halves make one character; a half on its own makes none. -/
def Piece.content : List Piece → Option (List Char)
  | [] => some []
  | .char c :: rest => (c :: ·) <$> content rest
  | .half high :: .half low :: rest =>
    if high < 0xDC00 && 0xDC00 ≤ low then
      (Char.ofNat (0x10000 + (high - 0xD800) * 0x400 + (low - 0xDC00)) :: ·) <$> content rest
    else none
  | .half _ :: _ => none

/-- The value of a hexadecimal digit. -/
def hexValue (c : Char) : Option Nat :=
  if c.isDigit then some (c.toNat - 48)
  else if 'a' ≤ c ∧ c ≤ 'f' then some (c.toNat - 87)
  else if 'A' ≤ c ∧ c ≤ 'F' then some (c.toNat - 55)
  else none

/-- The piece that four hexadecimal digits name. -/
def Piece.ofDigits (a b c d : Char) : Option Piece := do
  let unit := (((← hexValue a) * 16 + (← hexValue b)) * 16 + (← hexValue c)) * 16 + (← hexValue d)
  if 0xD800 ≤ unit && unit < 0xE000 then some (.half unit) else some (.char (Char.ofNat unit))

/-- The piece that an escape without digits names. -/
def Piece.ofEscape : Char → Option Piece
  | '"' => some (.char '"')
  | '\\' => some (.char '\\')
  | '/' => some (.char '/')
  | 'b' => some (.char '\x08')
  | 'f' => some (.char '\x0c')
  | 'n' => some (.char '\n')
  | 'r' => some (.char '\r')
  | 't' => some (.char '\t')
  | _ => none

/-- The pieces of a string after its opening quote, and what follows its closing quote. -/
def readPieces : List Char → Option (List Piece × List Char)
  | [] => none
  | '"' :: rest => some ([], rest)
  | '\\' :: 'u' :: a :: b :: c :: d :: rest => do
    let piece ← Piece.ofDigits a b c d
    let (others, rest) ← readPieces rest
    return (piece :: others, rest)
  | '\\' :: c :: rest => do
    let piece ← Piece.ofEscape c
    let (others, rest) ← readPieces rest
    return (piece :: others, rest)
  | c :: rest => do
    if c.toNat < 32 || c == '\\' then none
    else
      let (others, rest) ← readPieces rest
      return (.char c :: others, rest)

/-- At least one digit, and what follows. -/
def readDigits (text : List Char) : Option (List Char × List Char) :=
  match text.takeWhile Char.isDigit with
  | [] => none
  | digits => some (digits, text.dropWhile Char.isDigit)

/-- The digits before the point: a single zero, or digits of which the first is none. -/
def readWhole : List Char → Option (List Char × List Char)
  | '0' :: c :: rest => if c.isDigit then none else some (['0'], c :: rest)
  | text => readDigits text

/-- A point with digits after it, or nothing. -/
def readFraction : List Char → Option (List Char × List Char)
  | '.' :: rest => (readDigits rest).map fun (digits, rest) => ('.' :: digits, rest)
  | text => some ([], text)

/-- A letter `e` with a sign or none and digits after it, or nothing. -/
def readExponent : List Char → Option (List Char × List Char)
  | letter :: rest =>
    if letter = 'e' ∨ letter = 'E' then
      match rest with
      | sign :: digits =>
        if sign = '+' ∨ sign = '-' then
          (readDigits digits).map fun (digits, rest) => (letter :: sign :: digits, rest)
        else (readDigits rest).map fun (digits, rest) => (letter :: digits, rest)
      | [] => none
    else some ([], letter :: rest)
  | [] => some ([], [])

/-- The literal of a number, and what follows it. -/
def readNumber (text : List Char) : Option (List Char × List Char) := do
  let (sign, unsigned) := match text with
    | '-' :: rest => (['-'], rest)
    | _ => ([], text)
  let (whole, rest) ← readWhole unsigned
  let (fraction, rest) ← readFraction rest
  let (exponent, rest) ← readExponent rest
  return (sign ++ whole ++ fraction ++ exponent, rest)

mutual

/-- A value, which blanks may precede, and what follows it. -/
def readValue : Nat → List Char → Option (Value × List Char)
  | 0, _ => none
  | steps + 1, text =>
    match skipBlanks text with
    | '\x7b' :: rest =>
      match skipBlanks rest with
      | '\x7d' :: rest => some (.object [], rest)
      | rest => (readMembers steps rest).map fun (members, rest) => (.object members, rest)
    | '[' :: rest =>
      match skipBlanks rest with
      | ']' :: rest => some (.array [], rest)
      | rest => (readItems steps rest).map fun (items, rest) => (.array items, rest)
    | '"' :: rest =>
      (readPieces rest).map fun (pieces, rest) =>
        (.string ((Piece.content pieces).map String.ofList), rest)
    | 'n' :: 'u' :: 'l' :: 'l' :: rest => some (.null, rest)
    | 't' :: 'r' :: 'u' :: 'e' :: rest => some (.boolean true, rest)
    | 'f' :: 'a' :: 'l' :: 's' :: 'e' :: rest => some (.boolean false, rest)
    | rest => (readNumber rest).map fun (literal, rest) => (.number (String.ofList literal), rest)

/-- The items of an array up to its closing bracket. After a comma another item follows. -/
def readItems : Nat → List Char → Option (List Value × List Char)
  | 0, _ => none
  | steps + 1, text => do
    let (value, rest) ← readValue steps text
    match skipBlanks rest with
    | ']' :: rest => return ([value], rest)
    | ',' :: rest =>
      let (others, rest) ← readItems steps rest
      return (value :: others, rest)
    | _ => none

/-- The members of an object up to its closing brace. After a comma another member
follows. -/
def readMembers : Nat → List Char → Option (List (Content × Value) × List Char)
  | 0, _ => none
  | steps + 1, text =>
    match skipBlanks text with
    | '"' :: rest => do
      let (pieces, rest) ← readPieces rest
      let name := (Piece.content pieces).map String.ofList
      match skipBlanks rest with
      | ':' :: rest =>
        let (value, rest) ← readValue steps rest
        match skipBlanks rest with
        | '\x7d' :: rest => return ([(name, value)], rest)
        | ',' :: rest =>
          let (others, rest) ← readMembers steps rest
          return ((name, value) :: others, rest)
        | _ => none
      | _ => none
    | _ => none

end

/-- The value that a text writes. -/
def Value.read? (text : String) : Option Value := do
  let (value, rest) ← readValue (2 * text.toList.length + 1) text.toList
  if (skipBlanks rest).isEmpty then some value else none

end ProjectScribe.Json
