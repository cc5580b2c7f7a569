import Mathlib.Algebra.Group.Nat.Even
import Mathlib.Data.List.Chain
import ProjectScribe.Proofs.Script.ArgumentReading
import ProjectScribe.Script.Assembly

/-!
# What an argument says

Whoever runs a script reads an argument letter by letter. A backslash takes from a backslash or a
quote behind it what these mean otherwise, and is no letter of its own then. An argument stands
between quotes, or it is a text in which nothing ends it.

A value that is written with a backslash before each of its quotes is read back exactly if no
backslash in it comes to stand before another one or before a quote, which can be the closing one.
-/
namespace ProjectScribe.Script

section Letters

/-- A letter of an argument: a character as it is, or one behind a backslash. -/
inductive Letter where
  | plain (c : Char)
  | escaped (c : Char)
deriving DecidableEq, Repr

namespace Letter

/-- The character that a letter stands for. -/
def meaning : Letter → Char
  | plain c | escaped c => c

/-- The characters of a letter. -/
def written : Letter → List Char
  | plain c => [c]
  | escaped c => ['\\', c]

end Letter

/-- A character that means something else behind a backslash. -/
def isEscapable (c : Char) : Bool := c == '\\' || c == '"'

/-- The letters of a text. A backslash before any other character is a letter. -/
def letters : List Char → List Letter
  | [] => []
  | [c] => [.plain c]
  | first :: second :: rest =>
    if first = '\\' ∧ isEscapable second then .escaped second :: letters rest
    else .plain first :: letters (second :: rest)

/-- No letter is lost. -/
theorem flatMap_written_letters (text : List Char) : (letters text).flatMap Letter.written = text := by
  induction text using letters.induct with
  | case1 => rfl
  | case2 c => rfl
  | case3 first second rest escapes inductionHypothesis =>
    rw [letters, if_pos escapes, List.flatMap_cons, inductionHypothesis, escapes.1]
    rfl
  | case4 first second rest plain inductionHypothesis =>
    rw [letters, if_neg plain, List.flatMap_cons, inductionHypothesis]
    rfl

/-- What is not a backslash is a letter. -/
theorem letters_cons_of_ne {c : Char} (rest : List Char) (other : c ≠ '\\') :
    letters (c :: rest) = .plain c :: letters rest := by
  cases rest with
  | nil => rfl
  | cons second rest => rw [letters, if_neg fun escapes => other escapes.1]

/-- A backslash before nothing that it changes is a letter. -/
theorem letters_backslash (rest : List Char) (free : ∀ c ∈ rest.head?, isEscapable c = false) :
    letters ('\\' :: rest) = .plain '\\' :: letters rest := by
  cases rest with
  | nil => rfl
  | cons second rest =>
    have unchanged : isEscapable second = false := free second rfl
    rw [letters, if_neg (by simp [unchanged])]

theorem letters_escape {c : Char} (rest : List Char) (escapable : isEscapable c = true) :
    letters ('\\' :: c :: rest) = .escaped c :: letters rest := by
  rw [letters, if_pos ⟨rfl, escapable⟩]

/-- A text that does not end with a backslash has its letters, whatever comes behind it. -/
theorem letters_append {text : List Char} (rest : List Char)
    (ending : text.getLast? ≠ some '\\') : letters (text ++ rest) = letters text ++ letters rest := by
  induction text using letters.induct with
  | case1 => rfl
  | case2 c =>
    have other : c ≠ '\\' := by simpa using ending
    exact letters_cons_of_ne rest other
  | case3 first second tail escapes inductionHypothesis =>
    obtain ⟨rfl, escapable⟩ := escapes
    have further : tail.getLast? ≠ some '\\' := by
      cases tail with
      | nil => exact nofun
      | cons third tail => simpa using ending
    rw [List.cons_append, List.cons_append, letters_escape _ escapable,
      letters_escape _ escapable, inductionHypothesis further, List.cons_append]
  | case4 first second tail plain inductionHypothesis =>
    have further : (second :: tail).getLast? ≠ some '\\' := by simpa using ending
    have behind := inductionHypothesis further
    rw [List.cons_append] at behind
    rw [List.cons_append, List.cons_append, letters, if_neg plain, behind, letters, if_neg plain,
      List.cons_append]

/-- Backslashes before a quote belong together in pairs. One that is left takes the quote. -/
theorem letters_backslashes_quote (count : Nat) (rest : List Char) :
    letters (List.replicate count '\\' ++ '"' :: rest) =
      List.replicate (count / 2) (.escaped '\\') ++
        (if Even count then .plain '"' else .escaped '"') :: letters rest := by
  induction count using Nat.twoStepInduction with
  | zero => exact letters_cons_of_ne rest (by decide)
  | one => exact letters_escape rest rfl
  | more count inductionHypothesis _ =>
    have half : (count + 2) / 2 = count / 2 + 1 := by omega
    have parity : Even (count + 2) ↔ Even count := by simp [parity_simps]
    rw [List.replicate_succ, List.replicate_succ, List.cons_append, List.cons_append,
      letters_escape _ rfl, inductionHypothesis, half, List.replicate_succ, List.cons_append]
    simp only [parity]

end Letters

section Arguments

/-- What letters up to a closing quote stand for, if this is the last of them. -/
def closedText? : List Letter → Option (List Char)
  | [] => none
  | letter :: rest =>
    if letter = .plain '"' then if rest = [] then some [] else none
    else (closedText? rest).map (letter.meaning :: ·)

/-- A character that ends an argument without quotes, or cuts it into several. -/
def breaks (c : Char) : Bool := Text.isBlank c || c ∈ ['"', '(', ')', '#', ';']

/-- A letter that an argument without quotes can have. -/
def Letter.isBare : Letter → Bool
  | plain c => !breaks c
  | escaped _ => true

/-- What a text says that is written as one argument. -/
def argumentText? (written : List Char) : Option (List Char) :=
  match letters written with
  | [] => none
  | first :: rest =>
    if first = .plain '"' then closedText? rest
    else if (first :: rest).all (·.isBare) then some ((first :: rest).map (·.meaning))
    else none

example : argumentText? "\"a\\\\b \\\"c\\\"\"".toList = some "a\\b \"c\"".toList := by decide
example : argumentText? "a.\\b".toList = some "a.\\b".toList := by decide
example : argumentText? "\"a b\\\"".toList = none := by decide

/-- What a written argument says, if it is one. -/
def readArgument (written : String) : Option String :=
  (argumentText? written.toList).map String.ofList

/-- What closes an argument has to be the last of its letters. -/
theorem closedText?_append {inner : List Letter} (rest : List Letter)
    (opened : .plain '"' ∉ inner) :
    closedText? (inner ++ .plain '"' :: rest) =
      if rest = [] then some (inner.map Letter.meaning) else none := by
  induction inner with
  | nil => rfl
  | cons letter inner inductionHypothesis =>
    obtain ⟨other, further⟩ := List.ne_and_not_mem_of_not_mem_cons opened
    rw [List.cons_append, closedText?, if_neg (Ne.symm other), inductionHypothesis further]
    split <;> rfl

/-- An argument in quotes ends at its first quote that stands for none. -/
theorem closedText?_eq_some_iff {list : List Letter} {text : List Char} :
    closedText? list = some text ↔ ∃ inner, list = inner ++ [.plain '"'] ∧
      .plain '"' ∉ inner ∧ inner.map Letter.meaning = text := by
  induction list generalizing text with
  | nil => simp [closedText?]
  | cons letter rest inductionHypothesis =>
    rw [closedText?]
    by_cases closes : letter = .plain '"'
    · subst closes
      rw [if_pos rfl]
      constructor
      · intro read
        split at read
        · next last => exact ⟨[], by simp [last], by simp, Option.some.inj read⟩
        · cases read
      · rintro ⟨inner, parts, open_, rfl⟩
        cases inner with
        | nil => simpa using parts
        | cons other inner =>
          obtain ⟨rfl, -⟩ := List.cons.inj parts
          exact absurd List.mem_cons_self open_
    · rw [if_neg closes, Option.map_eq_some_iff]
      constructor
      · rintro ⟨behind, read, rfl⟩
        obtain ⟨inner, rfl, opened, rfl⟩ := inductionHypothesis.mp read
        exact ⟨letter :: inner, rfl, by simp [opened, Ne.symm closes], rfl⟩
      · rintro ⟨inner, parts, opened, rfl⟩
        cases inner with
        | nil => exact absurd (List.cons.inj parts).1 closes
        | cons other inner =>
          obtain ⟨rfl, same⟩ := List.cons.inj parts
          exact ⟨inner.map Letter.meaning, inductionHypothesis.mpr
            ⟨inner, same, fun listed => opened (List.mem_cons_of_mem _ listed), rfl⟩, rfl⟩

/-- What stands between quotes says something exactly if its letters do, up to the closing
quote. -/
theorem argumentText?_quoted (body : List Char) :
    argumentText? ('"' :: body) = closedText? (letters body) := by
  rw [argumentText?, letters_cons_of_ne body (by decide)]
  rfl

/-- Between quotes stand the letters that are read there. -/
theorem flatMap_written_of_cut {text : List Char} {inner : List Letter}
    (cut : letters (text ++ ['"']) = inner ++ [.plain '"']) :
    inner.flatMap Letter.written = text := by
  have characters := flatMap_written_letters (text ++ ['"'])
  rw [cut, List.flatMap_append, List.flatMap_singleton] at characters
  exact List.append_cancel_right characters

/-- Nothing behind its closing quote belongs to an argument in quotes. -/
theorem eq_nil_of_quoted_append {body rest text other : List Char}
    (read : argumentText? ('"' :: body) = some text)
    (longer : argumentText? ('"' :: (body ++ rest)) = some other) : rest = [] := by
  rw [argumentText?_quoted] at read longer
  obtain ⟨inner, cut, opened, -⟩ := closedText?_eq_some_iff.mp read
  have characters := flatMap_written_letters body
  rw [cut, List.flatMap_append, List.flatMap_singleton] at characters
  have ending : body.getLast? ≠ some '\\' := by simp [← characters, Letter.written]
  rw [letters_append rest ending, cut, List.append_assoc, List.singleton_append,
    closedText?_append _ opened] at longer
  split at longer
  · next nothing => rw [← flatMap_written_letters rest, nothing, List.flatMap_nil]
  · cases longer

/-- What does not begin with a quote says what its letters do if nothing breaks it. -/
theorem argumentText?_unquoted {text value : List Char} (filled : text ≠ [])
    (start : text.head? ≠ some '"') :
    argumentText? text = some value ↔
      (letters text).all (·.isBare) = true ∧ (letters text).map Letter.meaning = value := by
  have characters := flatMap_written_letters text
  rw [argumentText?]
  cases known : letters text with
  | nil =>
    rw [known] at characters
    exact absurd characters.symm filled
  | cons first rest =>
    have unquoted : first ≠ .plain '"' := by
      rintro rfl
      rw [known] at characters
      exact start (by rw [← characters]; rfl)
    dsimp only
    rw [if_neg unquoted]
    split
    · next bare => simp [bare]
    · next broken => simp [broken]

end Arguments

section Escaping

/-- A text with a backslash before each quote. -/
def escaped (value : List Char) : List Char := Text.replaceChar '"' ['\\', '"'] value

@[simp] theorem toList_escapeQuotes (value : String) :
    (Source.escapeQuotes value).toList = escaped value.toList := String.toList_ofList

@[simp] theorem escaped_nil : escaped [] = [] := rfl

@[simp] theorem escaped_quote (value : List Char) :
    escaped ('"' :: value) = '\\' :: '"' :: escaped value := rfl

theorem escaped_cons {c : Char} (value : List Char) (other : c ≠ '"') :
    escaped (c :: value) = c :: escaped value := by
  rw [escaped, Text.replaceChar, List.flatMap_cons, if_neg other]
  rfl

theorem escaped_of_unquoted {value : List Char} (unquoted : '"' ∉ value) :
    escaped value = value := by
  induction value with
  | nil => rfl
  | cons c value inductionHypothesis =>
    obtain ⟨noQuote, further⟩ := List.ne_and_not_mem_of_not_mem_cons unquoted
    rw [escaped_cons value (Ne.symm noQuote), inductionHypothesis further]

/-- A text in which no backslash stands before a backslash or a quote. -/
def Unescaping (text : List Char) : Prop :=
  text.IsChain fun c next => c = '\\' → isEscapable next = false

instance (text : List Char) : Decidable (Unescaping text) :=
  inferInstanceAs (Decidable (text.IsChain fun c next => c = '\\' → isEscapable next = false))

/-- The letter that stands for a character in a text with a backslash before each quote. -/
def letterFor (c : Char) : Letter := if c = '"' then .escaped c else .plain c

@[simp] theorem meaning_letterFor (c : Char) : (letterFor c).meaning = c := by
  rw [letterFor]
  split <;> rfl

theorem letterFor_ne_quote (c : Char) : letterFor c ≠ .plain '"' := by
  rw [letterFor]
  split
  · exact Letter.noConfusion
  · next other => exact fun same => other (Letter.plain.inj same)

theorem unescaping_cons_of_ne {c : Char} (rest : List Char) (other : c ≠ '\\') :
    Unescaping (c :: rest) ↔ Unescaping rest := by
  rw [Unescaping, List.isChain_cons]
  exact ⟨And.right, fun further => ⟨fun _ _ same => absurd same other, further⟩⟩

theorem unescaping_backslash (rest : List Char) :
    Unescaping ('\\' :: rest) ↔ (∀ c ∈ rest.head?, isEscapable c = false) ∧ Unescaping rest := by
  rw [Unescaping, List.isChain_cons]
  simp [Unescaping]

/-- What begins a text decides whether a backslash before it is a letter, whether or not the
quotes in the text get backslashes. -/
theorem head?_escaped (value closing : List Char) :
    (∀ c ∈ (escaped value ++ closing).head?, isEscapable c = false) ↔
      ∀ c ∈ (value ++ closing).head?, isEscapable c = false := by
  cases value with
  | nil => rfl
  | cons c value =>
    by_cases quote : c = '"'
    · subst quote
      simp [isEscapable]
    · rw [escaped_cons value quote]
      rfl

/-- The letters of a text with a backslash before each quote are those for its characters exactly
if none of its backslashes stands before a backslash or a quote. -/
theorem letters_escaped_iff (value closing : List Char)
    (short : letters closing = closing.map .plain) (alone : Unescaping closing) :
    letters (escaped value ++ closing) = value.map letterFor ++ closing.map .plain ↔
      Unescaping (value ++ closing) := by
  induction value with
  | nil => simp [short, alone]
  | cons c value inductionHypothesis =>
    by_cases quote : c = '"'
    · subst quote
      have letter : letterFor '"' = .escaped '"' := rfl
      rw [escaped_quote, List.cons_append, List.cons_append, letters_escape _ rfl, List.map_cons,
        letter, List.cons_append, List.cons.injEq, inductionHypothesis, List.cons_append,
        unescaping_cons_of_ne _ (by decide)]
      simp
    · have letter : letterFor c = .plain c := if_neg quote
      rw [escaped_cons value quote, List.cons_append, List.map_cons, letter, List.cons_append,
        List.cons_append]
      by_cases backslash : c = '\\'
      · subst backslash
        rw [unescaping_backslash, ← head?_escaped]
        by_cases free : ∀ c ∈ (escaped value ++ closing).head?, isEscapable c = false
        · rw [letters_backslash _ free, List.cons.injEq, inductionHypothesis]
          exact ⟨fun same => ⟨free, same.2⟩, fun ⟨_, further⟩ => ⟨rfl, further⟩⟩
        · refine iff_of_false (fun same => ?_) fun both => free both.1
          cases behind : escaped value ++ closing with
          | nil => exact free (by simp [behind])
          | cons second rest =>
            have escapable : isEscapable second = true := by
              simpa [behind] using free
            rw [behind, letters_escape rest escapable] at same
            exact Letter.noConfusion (List.cons.inj same).1
      · rw [letters_cons_of_ne _ backslash, List.cons.injEq, inductionHypothesis,
          unescaping_cons_of_ne _ backslash]
        simp

/-- Letters that are no closing quote take at least as many characters as it takes to write what
they stand for with a backslash before each quote, and more unless they are the letters of that.
Only some of the characters need to be counted, if backslashes are among them. -/
theorem countP_written (counted : Char → Bool) (counts : counted '\\' = true)
    {inner : List Letter} (opened : .plain '"' ∉ inner) :
    (escaped (inner.map Letter.meaning)).countP counted ≤
        (inner.flatMap Letter.written).countP counted ∧
      ((inner.flatMap Letter.written).countP counted ≤
          (escaped (inner.map Letter.meaning)).countP counted →
        inner = (inner.map Letter.meaning).map letterFor) := by
  induction inner with
  | nil => exact ⟨Nat.le_refl 0, fun _ => rfl⟩
  | cons letter rest inductionHypothesis =>
    obtain ⟨no, further⟩ := List.ne_and_not_mem_of_not_mem_cons opened
    obtain ⟨more, equal⟩ := inductionHypothesis further
    rw [List.map_cons, List.flatMap_cons, List.countP_append, List.map_cons]
    cases letter with
    | plain c =>
      have other : c ≠ '"' := fun quote => no (congrArg Letter.plain quote.symm)
      have letter : letterFor c = .plain c := if_neg other
      rw [Letter.meaning, Letter.written, escaped_cons _ other, letter, List.countP_cons,
        List.countP_singleton]
      refine ⟨by omega, fun atMost => ?_⟩
      rw [← equal (by omega)]
    | escaped c =>
      rw [Letter.meaning, Letter.written, List.countP_cons, List.countP_singleton, counts]
      by_cases quote : c = '"'
      · subst quote
        have letter : letterFor '"' = .escaped '"' := rfl
        rw [escaped_quote, List.countP_cons, List.countP_cons, counts, letter]
        refine ⟨by omega, fun atMost => ?_⟩
        rw [← equal (by omega)]
      · rw [escaped_cons _ quote, List.countP_cons, if_pos rfl]
        exact ⟨by omega, fun atMost => absurd atMost (by omega)⟩

/-- Between quotes a value with a backslash before each of its quotes is read back exactly if no
backslash stands before a backslash or a quote, which can be the closing one. -/
theorem argumentText?_quoted_escaped_iff (value : List Char) :
    argumentText? ('"' :: (escaped value ++ ['"'])) = some value ↔
      Unescaping (value ++ ['"']) := by
  have closing := letters_escaped_iff value ['"'] rfl (List.isChain_singleton '"')
  rw [argumentText?_quoted, closedText?_eq_some_iff]
  constructor
  · rintro ⟨inner, cut, opened, rfl⟩
    have all := (countP_written (fun _ => true) rfl opened).2 (by rw [flatMap_written_of_cut cut])
    exact closing.mp (cut.trans (congrArg (· ++ [Letter.plain '"']) all))
  · intro alone
    refine ⟨value.map letterFor, closing.mpr alone, ?_, by simp [Function.comp_def]⟩
    simp [letterFor_ne_quote]

theorem escaped_ne_nil {value : List Char} (filled : value ≠ []) : escaped value ≠ [] := by
  cases value with
  | nil => exact absurd rfl filled
  | cons c value =>
    by_cases quote : c = '"'
    · subst quote
      exact List.cons_ne_nil _ _
    · rw [escaped_cons value quote]
      exact List.cons_ne_nil _ _

/-- A text with a backslash before each quote does not begin with a quote. -/
theorem head?_escaped_ne (value : List Char) : (escaped value).head? ≠ some '"' := by
  cases value with
  | nil => simp
  | cons c value =>
    by_cases quote : c = '"'
    · subst quote
      simp
    · simpa [escaped_cons value quote] using quote

/-- Without quotes around it such a value is read back exactly if no backslash stands before a
backslash or a quote and nothing else breaks the argument. -/
theorem argumentText?_escaped_iff {value : List Char} (filled : value ≠ []) :
    argumentText? (escaped value) = some value ↔
      Unescaping value ∧ ∀ c ∈ value, breaks c = true → c = '"' := by
  have ends := letters_escaped_iff value [] rfl .nil
  simp only [List.append_nil, List.map_nil] at ends
  have bare : ∀ c, (letterFor c).isBare = true ↔ (breaks c = true → c = '"') := by
    intro c
    rw [letterFor]
    split
    · next quote => simp [Letter.isBare, quote]
    · next other => simp [Letter.isBare, other]
  rw [argumentText?_unquoted (escaped_ne_nil filled) (head?_escaped_ne value)]
  constructor
  · rintro ⟨allBare, meant⟩
    have opened : Letter.plain '"' ∉ letters (escaped value) := fun listed =>
      absurd (List.all_eq_true.mp allBare _ listed) (by decide)
    have all := (countP_written (fun _ => true) rfl opened).2 (by
      rw [flatMap_written_letters, meant])
    rw [meant] at all
    refine ⟨ends.mp all, fun c listed => (bare c).mp ?_⟩
    exact List.all_eq_true.mp allBare _ (all ▸ List.mem_map_of_mem listed)
  · rintro ⟨alone, unbroken⟩
    rw [ends.mpr alone, List.all_eq_true, List.forall_mem_map]
    exact ⟨fun c listed => (bare c).mpr (unbroken c listed), by simp [Function.comp_def]⟩

/-- Whether an argument has to be quoted does not depend on the backslashes before its quotes. -/
theorem needsQuoting_escaped (value : List Char) :
    needsQuoting (escaped value) = needsQuoting value := by
  have behind : ∀ (c : Char) (value : List Char),
      isSplit (c :: escaped value) = isSplit (c :: value) := by
    intro c value
    induction value generalizing c with
    | nil => rfl
    | cons second value inductionHypothesis =>
      by_cases quote : second = '"'
      · subst quote
        rw [escaped_quote, isSplit, isSplit, inductionHypothesis, isSplit]
        simp [splitsAfter, splitsBefore, Text.isBlank]
      · rw [escaped_cons value quote, isSplit, isSplit, inductionHypothesis]
  cases value with
  | nil => rfl
  | cons c value =>
    by_cases quote : c = '"'
    · subst quote
      rw [escaped_quote, needsQuoting, needsQuoting, isSplit, behind]
      simp [splitsAfter, splitsBefore, Text.isBlank]
    · rw [escaped_cons value quote, needsQuoting, needsQuoting, behind]
      rfl

/-- The quotes of such a value are not taken for quotes around it. -/
theorem quoteIfNeeded_escaped (value : List Char) :
    quoteIfNeeded (escaped value) =
      if needsQuoting value then '"' :: (escaped value ++ ['"']) else escaped value := by
  rw [quoteIfNeeded_of_bare (hasQuotes_of_head?_ne (head?_escaped_ne value)), needsQuoting_escaped]
  rfl

/-- A value that survives being written with a backslash before each of its quotes. -/
def IsReadBack (value : List Char) : Prop :=
  if needsQuoting value then Unescaping (value ++ ['"'])
  else Unescaping value ∧ ∀ c ∈ value, breaks c = true → c = '"'

instance (value : List Char) : Decidable (IsReadBack value) :=
  decidable_of_iff (if needsQuoting value then Unescaping (value ++ ['"'])
      else Unescaping value ∧ value.all (fun c => !breaks c || c == '"') = true) (by
    rw [IsReadBack, List.all_eq_true]
    simp only [Bool.or_eq_true, Bool.not_eq_true', beq_iff_eq, or_iff_not_imp_left,
      Bool.not_eq_false])

/-- A value with a backslash before each of its quotes, quoted if needed, is read back exactly if
it survives that. -/
theorem argumentText?_quoteIfNeeded_iff (value : List Char) :
    argumentText? (quoteIfNeeded (escaped value)) = some value ↔ IsReadBack value := by
  rw [quoteIfNeeded_escaped, IsReadBack]
  cases needs : needsQuoting value with
  | true =>
    rw [if_pos rfl, if_pos rfl]
    exact argumentText?_quoted_escaped_iff value
  | false =>
    have filled : value ≠ [] := by
      rintro rfl
      cases needs
    rw [if_neg Bool.false_ne_true, if_neg Bool.false_ne_true]
    exact argumentText?_escaped_iff filled

end Escaping

end ProjectScribe.Script
