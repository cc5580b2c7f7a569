import Mathlib.Data.List.Basic
import ProjectScribe.Proofs.Script.QuotedArguments
import ProjectScribe.Proofs.Text.Pieces
import ProjectScribe.Script.Instruction

/-!
# Reading commands back

A reader of scripts takes what stands between the first opening and the last closing parenthesis
of a command, and splits it at the blanks outside double quotes. It is given here as a machine
that goes through the characters once.

What is read from a written command are the arguments that it was made from, in both layouts: so
it does not matter to a reader whether a command was short enough for one line. This takes
arguments without quotes of their own in which no blank stands unquoted. References to variables
with a blank between them are left without quotes on purpose and are read as several arguments.
-/
namespace ProjectScribe.Script

open Instruction (margin lineAt linesAt commandAt listed)

section Reader

/-- Where a reader stands: between arguments, or in one, outside or inside of double quotes, with
the characters of it that have been read, backwards. -/
inductive Reader where
  | between
  | bare (current : List Char)
  | quoted (current : List Char)

/-- The arguments in a text, read from a position on. Quotes are no part of an argument, and what
stands between them belongs to one argument. -/
def argumentsFrom : Reader → List Char → List (List Char)
  | .between, [] => []
  | .bare current, [] | .quoted current, [] => [current.reverse]
  | .between, c :: rest =>
    if c = '"' then argumentsFrom (.quoted []) rest
    else if Text.isBlank c then argumentsFrom .between rest
    else argumentsFrom (.bare [c]) rest
  | .bare current, c :: rest =>
    if c = '"' then argumentsFrom (.quoted current) rest
    else if Text.isBlank c then current.reverse :: argumentsFrom .between rest
    else argumentsFrom (.bare (c :: current)) rest
  | .quoted current, c :: rest =>
    if c = '"' then argumentsFrom (.bare current) rest
    else argumentsFrom (.quoted (c :: current)) rest

/-- What stands between the first opening parenthesis and the last closing one behind it. -/
def parenthesized (text : List Char) : Option (List Char) := do
  let (_, after) ← Text.cutAt '(' text
  let (_, within) ← Text.cutAt ')' after.reverse
  return within.reverse

/-- The arguments of a written command. -/
def readArguments (text : String) : Option (List String) :=
  (parenthesized text.toList).map fun within =>
    (argumentsFrom .between within).map String.ofList

example : readArguments "set(A \"b  c\" \"\")\n" = some ["A", "b  c", ""] := by decide
example : readArguments "set(A $\x7bB\x7d $\x7bC\x7d)" =
    some ["A", "$\x7bB\x7d", "$\x7bC\x7d"] := by decide

/-- Blanks between arguments are passed over. -/
theorem argumentsFrom_blanks (gap rest : List Char) (blank : ∀ c ∈ gap, Text.isBlank c = true) :
    argumentsFrom .between (gap ++ rest) = argumentsFrom .between rest := by
  induction gap with
  | nil => rfl
  | cons c gap inductionHypothesis =>
    have blankHere : Text.isBlank c = true := blank c List.mem_cons_self
    have noQuote : c ≠ '"' := by
      rintro rfl
      exact absurd blankHere (by decide)
    rw [List.cons_append, argumentsFrom, if_neg noQuote, if_pos blankHere]
    exact inductionHypothesis fun other listed => blank other (List.mem_cons_of_mem c listed)

/-- Ordinary characters outside of quotes are added to the argument. -/
theorem argumentsFrom_bare (current word rest : List Char)
    (unquoted : '"' ∉ word) (unbroken : ∀ c ∈ word, Text.isBlank c = false) :
    argumentsFrom (.bare current) (word ++ rest) =
      argumentsFrom (.bare (word.reverse ++ current)) rest := by
  induction word generalizing current with
  | nil => rfl
  | cons c word inductionHypothesis =>
    obtain ⟨noQuote, further⟩ := List.ne_and_not_mem_of_not_mem_cons unquoted
    have unbrokenHere : ¬ Text.isBlank c = true := by simp [unbroken c List.mem_cons_self]
    rw [List.cons_append, argumentsFrom, if_neg (Ne.symm noQuote), if_neg unbrokenHere,
      inductionHypothesis (c :: current) further fun other listed =>
        unbroken other (List.mem_cons_of_mem c listed)]
    simp

/-- All characters up to the closing quote are added to the argument. -/
theorem argumentsFrom_quoted (current stretch rest : List Char) (unquoted : '"' ∉ stretch) :
    argumentsFrom (.quoted current) (stretch ++ '"' :: rest) =
      argumentsFrom (.bare (stretch.reverse ++ current)) rest := by
  induction stretch generalizing current with
  | nil => rfl
  | cons c stretch inductionHypothesis =>
    obtain ⟨noQuote, further⟩ := List.ne_and_not_mem_of_not_mem_cons unquoted
    rw [List.cons_append, argumentsFrom, if_neg (Ne.symm noQuote),
      inductionHypothesis (c :: current) further]
    simp

/-- A text that ends an argument in front of it: it is empty or begins with a blank. -/
def Ends (text : List Char) : Prop := ∀ c ∈ text.head?, Text.isBlank c = true

/-- An argument is complete where a blank or the end of the text follows. -/
theorem argumentsFrom_ends (current rest : List Char) (ends : Ends rest) :
    argumentsFrom (.bare current) rest = current.reverse :: argumentsFrom .between rest := by
  cases rest with
  | nil => rfl
  | cons c rest =>
    have blankHere : Text.isBlank c = true := ends c rfl
    have noQuote : c ≠ '"' := by
      rintro rfl
      exact absurd blankHere (by decide)
    rw [argumentsFrom, argumentsFrom, if_neg noQuote, if_neg noQuote, if_pos blankHere,
      if_pos blankHere]

end Reader

section Arguments

/-- An argument that can be read back: it has no double quotes, and it has no blanks either unless
they get it quoted. -/
structure Readable (text : String) : Prop where
  unquoted : '"' ∉ text.toList
  whole : (∀ c ∈ text.toList, Text.isBlank c = false) ∨ needsQuoting text.toList = true

instance (text : String) : Decidable (Readable text) :=
  decidable_of_iff ('"' ∉ text.toList ∧
      (text.toList.all (!Text.isBlank ·) = true ∨ needsQuoting text.toList = true)) (by
    simp only [List.all_eq_true, Bool.not_eq_true']
    exact ⟨fun ⟨unquoted, whole⟩ => ⟨unquoted, whole⟩,
      fun readable => ⟨readable.unquoted, readable.whole⟩⟩)

/-- An argument without quotes is quoted if it needs to be, and else left as it is. -/
theorem quoteIfNeeded_unquoted (text : List Char) (unquoted : '"' ∉ text) :
    quoteIfNeeded text = if needsQuoting text then '"' :: text ++ ['"'] else text := by
  have start : text.head? ≠ some '"' := fun begins => unquoted (List.mem_of_mem_head? begins)
  exact quoteIfNeeded_of_bare (hasQuotes_of_head?_ne start)

/-- Texts without quotes are told apart by how they are written as arguments. -/
theorem argument_inj {text other : String} (unquoted : '"' ∉ text.toList)
    (otherUnquoted : '"' ∉ other.toList) : argument text = argument other ↔ text = other := by
  have bare : ∀ text : String, '"' ∉ text.toList →
      (argument text).toList.filter (· ≠ '"') = text.toList := by
    intro text unquoted
    have kept : text.toList.filter (· ≠ '"') = text.toList :=
      List.filter_eq_self.mpr fun c listed => decide_eq_true fun quote => unquoted (quote ▸ listed)
    rw [argument, String.toList_ofList, quoteIfNeeded_unquoted _ unquoted]
    split
    · rw [List.cons_append, List.filter_cons_of_neg (by decide), List.filter_append, kept]
      exact List.append_nil _
    · exact kept
  refine ⟨fun same => ?_, congrArg argument⟩
  rw [← String.toList_inj, ← bare text unquoted, ← bare other otherUnquoted, same]

/-- A written argument is read as one argument, whatever follows behind it. -/
theorem argumentsFrom_argument (text : String) (readable : Readable text) (rest : List Char)
    (ends : Ends rest) :
    argumentsFrom .between ((argument text).toList ++ rest) =
      text.toList :: argumentsFrom .between rest := by
  rw [argument, String.toList_ofList, quoteIfNeeded_unquoted _ readable.unquoted]
  cases needs : needsQuoting text.toList with
  | true =>
    have opened : argumentsFrom .between ('"' :: text.toList ++ ['"'] ++ rest) =
        argumentsFrom (.quoted []) (text.toList ++ '"' :: rest) := by
      simp [argumentsFrom]
    rw [if_pos rfl, opened, argumentsFrom_quoted _ _ _ readable.unquoted,
      argumentsFrom_ends _ _ ends, List.append_nil, List.reverse_reverse]
  | false =>
    rw [if_neg Bool.false_ne_true]
    have unbroken := readable.whole.resolve_right (by simp [needs])
    have unquoted := readable.unquoted
    cases letters : text.toList with
    | nil => simp [letters, needsQuoting] at needs
    | cons c word =>
      rw [letters] at unbroken unquoted
      obtain ⟨noQuote, further⟩ := List.ne_and_not_mem_of_not_mem_cons unquoted
      have unbrokenHere : ¬ Text.isBlank c = true := by simp [unbroken c List.mem_cons_self]
      rw [List.cons_append, argumentsFrom, if_neg (Ne.symm noQuote), if_neg unbrokenHere,
        argumentsFrom_bare _ _ _ further fun other listed =>
          unbroken other (List.mem_cons_of_mem c listed), argumentsFrom_ends _ _ ends]
      simp

/-- A written argument is never empty. -/
theorem argument_ne_empty (text : String) (readable : Readable text) : argument text ≠ "" := by
  intro empty
  have read := argumentsFrom_argument text readable [] (by simp [Ends])
  rw [empty] at read
  simp [argumentsFrom] at read

end Arguments

section Layouts

/-- A command on one line. -/
def onOneLine (depth : Nat) (name : String) (arguments : List String) : String :=
  lineAt depth (name ++ "(" ++ " ".intercalate arguments ++ ")")

/-- A command with a line for each argument. -/
def onManyLines (depth : Nat) (name : String) (arguments : List String) : String :=
  lineAt depth (name ++ "(") ++ linesAt (depth + 1) arguments ++ lineAt depth ")"

/-- A command stands on one line or has a line for each argument. -/
theorem commandAt_eq_or (depth : Nat) (name : String) (arguments : List String) :
    commandAt depth name arguments = onOneLine depth name arguments ∨
      commandAt depth name arguments = onManyLines depth name arguments := by
  unfold commandAt
  dsimp only
  split
  · exact .inl rfl
  · exact .inr rfl

/-- A line that is not empty has its margin before it and a line feed behind it. -/
theorem toList_lineAt (depth : Nat) (text : String) (filled : text ≠ "") :
    (lineAt depth text).toList = List.replicate (2 * depth) ' ' ++ text.toList ++ ['\n'] := by
  rw [lineAt, if_neg filled]
  simp [margin]

/-- Arguments with blanks between them are read one by one. -/
theorem argumentsFrom_intercalate (arguments : List String)
    (readable : ∀ text ∈ arguments, Readable text) :
    argumentsFrom .between
        ([' '].intercalate (arguments.map fun text => (argument text).toList)) =
      arguments.map String.toList := by
  induction arguments with
  | nil => rfl
  | cons first rest inductionHypothesis =>
    have firstReadable := readable first List.mem_cons_self
    have further := inductionHypothesis fun text listed =>
      readable text (List.mem_cons_of_mem first listed)
    cases rest with
    | nil =>
      have alone := argumentsFrom_argument first firstReadable [] (by simp [Ends])
      simpa [argumentsFrom] using alone
    | cons second others =>
      rw [List.map_cons] at further
      rw [List.map_cons, List.map_cons, List.intercalate_cons_cons, List.append_assoc,
        argumentsFrom_argument first firstReadable _ (by simp [Ends, Text.isBlank]),
        argumentsFrom_blanks [' '] _ (by simp [Text.isBlank]), further]
      rfl

/-- Arguments on lines of their own are read line by line. -/
theorem argumentsFrom_lines (depth : Nat) (arguments : List String)
    (readable : ∀ text ∈ arguments, Readable text) (rest : List Char) :
    argumentsFrom .between ((linesAt depth (arguments.map argument)).toList ++ rest) =
      arguments.map String.toList ++ argumentsFrom .between rest := by
  induction arguments with
  | nil => simp [linesAt]
  | cons first others inductionHypothesis =>
    have firstReadable := readable first List.mem_cons_self
    have further := inductionHypothesis fun text listed =>
      readable text (List.mem_cons_of_mem first listed)
    have written : (linesAt depth ((first :: others).map argument)).toList ++ rest =
        List.replicate (2 * depth) ' ' ++ ((argument first).toList ++
          (['\n'] ++ ((linesAt depth (others.map argument)).toList ++ rest))) := by
      have line := toList_lineAt depth (argument first) (argument_ne_empty first firstReadable)
      simp [linesAt, String.toList_join, line]
    rw [written, argumentsFrom_blanks _ _ (by simp [Text.isBlank]),
      argumentsFrom_argument first firstReadable _ (by simp [Ends, Text.isBlank]),
      argumentsFrom_blanks ['\n'] _ (by simp [Text.isBlank]), further]
    rfl

/-- The part in parentheses of a text in which nothing opens before it and nothing closes behind
it. -/
theorem parenthesized_eq (before within after : List Char) (unopened : '(' ∉ before)
    (unclosed : ')' ∉ after) :
    parenthesized (before ++ '(' :: (within ++ ')' :: after)) = some within := by
  have backwards : (within ++ ')' :: after).reverse = after.reverse ++ ')' :: within.reverse := by
    simp
  rw [parenthesized, Text.cutAt_append unopened]
  simp only [Option.bind_eq_bind, Option.bind_some]
  rw [backwards, Text.cutAt_append (by simpa using unclosed)]
  simp

end Layouts

variable (depth : Nat) (name : String) (arguments : List String)

theorem readArguments_onOneLine (named : '(' ∉ name.toList)
    (readable : ∀ text ∈ arguments, Readable text) :
    readArguments (onOneLine depth name (arguments.map argument)) = some arguments := by
  have filled : name ++ "(" ++ " ".intercalate (arguments.map argument) ++ ")" ≠ "" := by
    intro empty
    have letters := congrArg String.toList empty
    simp at letters
  have written : (onOneLine depth name (arguments.map argument)).toList =
      (List.replicate (2 * depth) ' ' ++ name.toList) ++ '(' ::
        ([' '].intercalate (arguments.map fun text => (argument text).toList) ++
          ')' :: ['\n']) := by
    rw [onOneLine, toList_lineAt _ _ filled]
    simp [String.toList_intercalate, Function.comp_def]
  rw [readArguments, written, parenthesized_eq _ _ _ (by simp [named]) (by decide),
    Option.map_some, argumentsFrom_intercalate arguments readable]
  simp

theorem readArguments_onManyLines (named : '(' ∉ name.toList)
    (readable : ∀ text ∈ arguments, Readable text) :
    readArguments (onManyLines depth name (arguments.map argument)) = some arguments := by
  have filled : name ++ "(" ≠ "" := by
    intro empty
    have letters := congrArg String.toList empty
    simp at letters
  have written : (onManyLines depth name (arguments.map argument)).toList =
      (List.replicate (2 * depth) ' ' ++ name.toList) ++ '(' ::
        (['\n'] ++ ((linesAt (depth + 1) (arguments.map argument)).toList ++
          List.replicate (2 * depth) ' ') ++ ')' :: ['\n']) := by
    rw [onManyLines, String.toList_append, String.toList_append, toList_lineAt _ _ filled,
      toList_lineAt _ _ (by decide)]
    simp
  have closing := argumentsFrom_blanks (List.replicate (2 * depth) ' ') [] (by simp [Text.isBlank])
  rw [List.append_nil] at closing
  rw [readArguments, written, parenthesized_eq _ _ _ (by simp [named]) (by decide),
    Option.map_some, argumentsFrom_blanks ['\n'] _ (by simp [Text.isBlank]),
    argumentsFrom_lines _ arguments readable, closing]
  simp [argumentsFrom]

/-- A command whose arguments have no quotes, and no blanks that go without quotes, is read back
with exactly these arguments, in order and with those that are empty: at every depth, with every
name that opens no parenthesis, in both layouts, and so whichever of them its length decides for.
The same holds for a list behind other arguments. -/
theorem readArguments_command (named : '(' ∉ name.toList)
    (readable : ∀ text ∈ arguments, Readable text) :
    readArguments (onOneLine depth name (arguments.map argument)) = some arguments ∧
      readArguments (onManyLines depth name (arguments.map argument)) = some arguments ∧
      readArguments ((Instruction.command name arguments).textAt depth) = some arguments ∧
      ∀ head items, arguments = head ++ items → items ≠ [] →
        readArguments (textFrom depth (listed name head items)) = some arguments := by
  have oneLine := readArguments_onOneLine depth name arguments named readable
  have manyLines := readArguments_onManyLines depth name arguments named readable
  have chosen : readArguments ((Instruction.command name arguments).textAt depth) =
      some arguments := by
    rw [Instruction.textAt]
    rcases commandAt_eq_or depth name (arguments.map argument) with short | long
    · rw [short, oneLine]
    · rw [long, manyLines]
  refine ⟨oneLine, manyLines, chosen, ?_⟩
  intro head items split filled
  have written : textFrom depth (listed name head items) =
      (Instruction.command name arguments).textAt depth := by
    cases items with
    | nil => exact absurd rfl filled
    | cons item rest => simp [listed, textFrom, split]
  rw [written, chosen]

/-- A variable and a list for it, with blanks, an empty text, a line feed, parentheses and two
references in ordinary text. They take more than a hundred bytes. -/
def manifold : List String :=
  ["SOURCES", "my file.c", "", "first line\nsecond line", ")(", "$\x7bA\x7d and $\x7bB\x7d",
    "generated/sources/of/the/parser/for/the/command/language/of/the/simulation.cpp"]

theorem readArguments_command_manifold :
    '(' ∉ "set".toList ∧ (∀ text ∈ manifold, Readable text) ∧
      readArguments (onOneLine 1 "set" (manifold.map argument)) = some manifold ∧
      readArguments (onManyLines 1 "set" (manifold.map argument)) = some manifold ∧
      readArguments ((Instruction.command "set" manifold).textAt 1) = some manifold ∧
      ∀ head items, manifold = head ++ items → items ≠ [] →
        readArguments (textFrom 1 (listed "set" head items)) = some manifold :=
  ⟨by decide, by decide, readArguments_command 1 "set" manifold (by decide) (by decide)⟩

end ProjectScribe.Script
