/-!
# Cutting texts into pieces

Cutting at every separator, at the first separator, and at line ends; joining; and the tests for
how a text starts and ends. A text cut at every occurrence of a separator has one piece more than
it has separators, so empty pieces are kept.
-/
namespace ProjectScribe.Text

/-- The pieces between the characters of a class. There is always at least one piece. -/
def pieces (isSeparator : Char → Bool) : List Char → List (List Char)
  | [] => [[]]
  | c :: rest =>
    if isSeparator c then [] :: pieces isSeparator rest
    else match pieces isSeparator rest with
      | [] => [[c]]
      | first :: others => (c :: first) :: others

/-- What stands before and after the first occurrence of a character, if there is one. -/
def cutAt (separator : Char) : List Char → Option (List Char × List Char)
  | [] => none
  | c :: rest =>
    if c = separator then some ([], rest)
    else (cutAt separator rest).map fun (before, after) => (c :: before, after)

/-- What follows a given start, if the text has it. -/
def afterStart? : List Char → List Char → Option (List Char)
  | [], text => some text
  | _ :: _, [] => none
  | s :: start, c :: rest => if s = c then afterStart? start rest else none

/-- Whether a text begins with a given one. -/
def startsWith (start text : List Char) : Bool := (afterStart? start text).isSome

/-- Whether a text ends with a given one. -/
def endsWith (ending text : List Char) : Bool := startsWith ending.reverse text.reverse

/-- What stands before and after the first occurrence of a non-empty text. -/
def cutAtText (separator : List Char) : List Char → Option (List Char × List Char)
  | [] => none
  | c :: rest =>
    match afterStart? separator (c :: rest) with
    | some after => some ([], after)
    | none => (cutAtText separator rest).map fun (before, after) => (c :: before, after)

/-- The pieces joined by a separator. -/
def join (separator : List Char) : List (List Char) → List Char
  | [] => []
  | [last] => last
  | first :: second :: others => first ++ separator ++ join separator (second :: others)

/-- A line without the carriage return that may precede its line feed. -/
def withoutReturn (line : List Char) : List Char :=
  match line.reverse with
  | '\r' :: rest => rest.reverse
  | _ => line

/-- The lines of a text, read from the left: `current` holds the line under way, backwards. -/
def linesFrom (current : List Char) : List Char → List (List Char)
  | [] => if current.isEmpty then [] else [current.reverse]
  | c :: rest =>
    if c = '\n' then withoutReturn current.reverse :: linesFrom [] rest
    else linesFrom (c :: current) rest

/-- The lines of a text. Each ends with a line feed or a carriage return and a line feed, which
are not part of it; the last line may lack its ending and then keeps a final carriage return. -/
def lines (text : List Char) : List (List Char) := linesFrom [] text

/-- Every occurrence of one character replaced by a text. -/
def replaceChar (replaced : Char) (replacement text : List Char) : List Char :=
  text.flatMap fun c => if c = replaced then replacement else [c]

theorem pieces_ne_nil (isSeparator : Char → Bool) (text : List Char) :
    pieces isSeparator text ≠ [] := by
  cases text with
  | nil => simp [pieces]
  | cons c rest =>
    simp only [pieces]
    split
    · simp
    · split <;> simp

/-- Cutting loses exactly the separator. -/
theorem eq_append_of_cutAt {separator : Char} {text before after : List Char}
    (cut : cutAt separator text = some (before, after)) :
    text = before ++ separator :: after := by
  induction text generalizing before with
  | nil => simp [cutAt] at cut
  | cons c rest inductionHypothesis =>
    simp only [cutAt] at cut
    split at cut
    · simp_all
    · simp only [Option.map_eq_some_iff, Prod.exists, Prod.mk.injEq] at cut
      obtain ⟨tail, _, found, rfl, rfl⟩ := cut
      simp [inductionHypothesis found]

/-- What follows a start is the text less that start. -/
theorem afterStart?_eq_some_iff {start text rest : List Char} :
    afterStart? start text = some rest ↔ text = start ++ rest := by
  induction start generalizing text with
  | nil => simp [afterStart?, eq_comm]
  | cons s start inductionHypothesis =>
    cases text with
    | nil => simp [afterStart?]
    | cons c text =>
      simp only [afterStart?]
      split
      · simp_all
      · constructor
        · simp
        · intro same
          simp_all

example : pieces (· == ';') "a;;b".toList = ["a".toList, [], "b".toList] := rfl
example : lines "a\r\nb\n\nc\r".toList = ["a".toList, "b".toList, [], "c\r".toList] := rfl
example : cutAt '=' "k=v=w".toList = some ("k".toList, "v=w".toList) := rfl

end ProjectScribe.Text
