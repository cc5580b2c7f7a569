import Mathlib.Algebra.Ring.Parity
import ProjectScribe.Proofs.Script.ArgumentText
import ProjectScribe.Proofs.Script.CommandNames

/-!
# How groups of sources are named

The name of a group is the path of its filter, whose parts are joined by backslashes and may have
backslashes and quotes of their own. It is written between quotes, with a backslash before each
of these characters.

Read letter by letter, this is the path again: backslashes come in pairs, and where an odd number
of them stands before a quote, the last one takes the quote. So no quote inside closes the name,
and different paths are never written the same way.
-/
namespace ProjectScribe.Script

namespace Source

open Instruction (setList)

section Literals

/-- How a character of the name of a group is written. -/
def groupCharacter (c : Char) : List Char :=
  if c = '\\' then ['\\', '\\'] else if c = '"' then ['\\', '"'] else [c]

/-- The letter that stands for a character in the name of a group. -/
def groupLetter (c : Char) : Letter := if isEscapable c then .escaped c else .plain c

theorem written_groupLetter (c : Char) : (groupLetter c).written = groupCharacter c := by
  unfold groupLetter groupCharacter
  by_cases backslash : c = '\\'
  · subst backslash
    rfl
  · by_cases quote : c = '"'
    · subst quote
      rfl
    · have plain : isEscapable c = false := by simp [isEscapable, backslash, quote]
      rw [plain, if_neg backslash, if_neg quote]
      rfl

@[simp] theorem meaning_groupLetter (c : Char) : (groupLetter c).meaning = c := by
  unfold groupLetter
  split <;> rfl

/-- A backslash or a quote in the name of a group always is behind a backslash. -/
theorem groupLetter_ne_plain {c special : Char} (escapable : isEscapable special = true) :
    groupLetter c ≠ .plain special := by
  unfold groupLetter
  split
  · exact nofun
  · next plain =>
    rintro same
    obtain rfl := Letter.plain.inj same
    exact plain escapable

/-- What is written for a character is one letter, whatever comes behind it. -/
theorem letters_groupCharacter (c : Char) (rest : List Char) :
    letters (groupCharacter c ++ rest) = groupLetter c :: letters rest := by
  rw [← written_groupLetter, groupLetter]
  split
  · next escapable => exact letters_escape rest escapable
  · next plain =>
    refine letters_cons_of_ne rest ?_
    rintro rfl
    exact plain rfl

theorem letters_flatMap_groupCharacter (path rest : List Char) :
    letters (path.flatMap groupCharacter ++ rest) = path.map groupLetter ++ letters rest := by
  induction path with
  | nil => rfl
  | cons c path inductionHypothesis =>
    rw [List.flatMap_cons, List.append_assoc, letters_groupCharacter, inductionHypothesis,
      List.map_cons, List.cons_append]

/-- To double the backslashes first and to give the quotes theirs then is to write one character
after the other, since no quote comes of a backslash. -/
theorem escaped_replaceChar (path : List Char) :
    escaped (Text.replaceChar '\\' ['\\', '\\'] path) = path.flatMap groupCharacter := by
  rw [escaped, Text.replaceChar, Text.replaceChar, List.flatMap_assoc]
  congr 1
  funext c
  unfold groupCharacter
  by_cases backslash : c = '\\'
  · subst backslash
    rfl
  · rw [if_neg backslash, if_neg backslash, List.flatMap_singleton]

theorem toList_groupLiteral (path : String) :
    (groupLiteral path).toList = '"' :: (path.toList.flatMap groupCharacter ++ ['"']) := by
  rw [← escaped_replaceChar, groupLiteral]
  simp [doubleBackslashes]

/-- A quote in the name of a group stands behind an odd number of backslashes. -/
theorem odd_of_quote {path before after : List Char} {count : Nat}
    (split : path.flatMap groupCharacter = before ++ List.replicate count '\\' ++ '"' :: after)
    (ending : before.getLast? ≠ some '\\') : Odd count := by
  have read := letters_flatMap_groupCharacter path []
  rw [List.append_nil, split, List.append_assoc, letters_append _ ending,
    letters_backslashes_quote] at read
  by_contra even
  rw [if_pos (Nat.not_odd_iff_even.mp even)] at read
  have listed : Letter.plain '"' ∈ path.map groupLetter ++ letters [] := by simp [← read]
  obtain ⟨c, -, same⟩ : ∃ c ∈ path, groupLetter c = .plain '"' := by
    simpa [letters] using listed
  exact groupLetter_ne_plain rfl same

/-- The written name of a group is read as its path. -/
theorem argumentText?_groupLiteral (path : String) :
    argumentText? (groupLiteral path).toList = some path.toList := by
  have opened : Letter.plain '"' ∉ path.toList.map groupLetter := by
    simpa using fun c _ => groupLetter_ne_plain rfl
  have closing : letters ['"'] = [.plain '"'] := rfl
  rw [toList_groupLiteral, argumentText?_quoted, letters_flatMap_groupCharacter, closing,
    closedText?_append [] opened, if_pos rfl]
  simp [Function.comp_def]

theorem groupLiteral_injective : Function.Injective groupLiteral := by
  intro path other same
  have read := argumentText?_groupLiteral path
  rw [same, argumentText?_groupLiteral other] at read
  exact String.toList_inj.mp (Option.some.inj read).symm

/-- Whatever stands behind the written name of a group, it is the only beginning of the whole that
can be read. -/
theorem eq_groupLiteral_of_prefix {path : String} {behind start : List Char}
    (begins : start <+: (groupLiteral path).toList ++ behind)
    (reads : (argumentText? start).isSome = true) : start = (groupLiteral path).toList := by
  obtain ⟨text, read⟩ := Option.isSome_iff_exists.mp reads
  have whole := argumentText?_groupLiteral path
  rw [toList_groupLiteral] at begins whole ⊢
  cases start with
  | nil => exact absurd read nofun
  | cons first body =>
    rw [List.cons_append, List.cons_prefix_cons] at begins
    obtain ⟨rfl, within⟩ := begins
    congr 1
    -- One of the two ends where the other one does, or before.
    rcases List.prefix_or_prefix_of_prefix within (List.prefix_append _ _) with
      ⟨rest, longer⟩ | ⟨rest, longer⟩
    · rw [← longer] at whole ⊢
      rw [eq_nil_of_quoted_append read whole, List.append_nil]
    · rw [← longer] at read ⊢
      rw [eq_nil_of_quoted_append whole read, List.append_nil]

end Literals

section Groups

/-- The filters of a source that have a name and files to build, as they come in its script. -/
def namedGroups (source : Source) : List Nat :=
  (FilterTree.root :: source.project.filters.walk).filter fun place =>
    source.project.filters.pathOf place ≠ "" ∧ source.builtPaths place ≠ []

/-- The command that names the group of a filter. -/
def grouping (source : Source) (place : Nat) : Instruction :=
  let path := source.project.filters.pathOf place
  .verbatim "source_group" [groupLiteral path, "FILES", reference (sourcesVariable path)]

theorem groupings_groupSources (source : Source) (place : Nat) :
    (source.groupSources place).value.filter (isRunning "source_group") =
      if source.project.filters.pathOf place ≠ "" ∧ source.builtPaths place ≠ [] then
        [source.grouping place] else [] := by
  rw [value_groupSources]
  dsimp only
  by_cases nothing : source.builtPaths place = []
  · simp [nothing]
  · have built : (source.builtPaths place).isEmpty = false := by simpa using nothing
    have assigned : Uses ["set"] (setList (sourcesVariable (source.project.filters.pathOf place))
        (source.builtPaths place)) := .listed (by decide) _ _
    have gathered : ∀ arguments, Uses ["list"] [.command "list" arguments] :=
      fun _ => .command (by decide) _
    rw [built, if_neg Bool.false_ne_true, List.filter_append, List.filter_append,
      assigned.filter_isRunning (by decide), (gathered _).filter_isRunning (by decide),
      List.nil_append, List.append_nil]
    by_cases unnamed : source.project.filters.pathOf place = ""
    · simp [unnamed]
    · rw [if_neg unnamed, if_pos ⟨unnamed, nothing⟩]
      rfl

theorem groupings_script (source : Source) (now : Nat) :
    (source.script now).value.filter (isRunning "source_group") =
      source.namedGroups.map source.grouping := by
  have ending : Uses ["include"] [hook .postSources, .blank] :=
    (uses_hook _ (by decide)).append (.silent rfl)
  rw [script_eq_parts, List.filter_append, List.filter_append, List.filter_append,
    (source.uses_head now _).filter_isRunning (by decide),
    source.uses_directorySettings.filter_isRunning (by decide),
    source.uses_behindSources.filter_isRunning (by decide), List.append_nil, List.nil_append,
    List.nil_append, value_sources, List.filter_append, ending.filter_isRunning (by decide),
    List.append_nil, List.filter_flatMap, namedGroups]
  induction FilterTree.root :: source.project.filters.walk with
  | nil => rfl
  | cons place places inductionHypothesis =>
    rw [List.flatMap_cons, inductionHypothesis, groupings_groupSources, List.filter_cons]
    simp only [decide_eq_true_eq]
    split <;> rfl

/-- A script names the groups of its sources one by one: those of the filters that have a path and
files to build, as they come in the script. Each name stands between quotes. Inside, any run of
backslashes before a quote is of odd length, and from left to right each backslash takes a
backslash or a quote behind it, so that the letters are those of the path of the filter. In any
text that begins with the name, the name itself is the one beginning that can be read. So
different paths are written as different names. -/
theorem groups_read_back (source : Source) (now : Nat) :
    let filters := source.project.filters
    (source.script now).value.filter (isRunning "source_group") =
        source.namedGroups.map source.grouping ∧
      (∀ place, ∃ inside : List Char,
        (groupLiteral (filters.pathOf place)).toList = '"' :: (inside ++ ['"']) ∧
        (∀ before count after, inside = before ++ List.replicate count '\\' ++ '"' :: after →
          before.getLast? ≠ some '\\' → Odd count) ∧
        (∀ letter ∈ letters inside, letter ≠ .plain '\\' ∧ letter ≠ .plain '"') ∧
        (letters inside).map Letter.meaning = (filters.pathOf place).toList ∧
        readArgument (groupLiteral (filters.pathOf place)) = some (filters.pathOf place) ∧
        ∀ behind start, start <+: (groupLiteral (filters.pathOf place)).toList ++ behind →
          (argumentText? start).isSome = true →
            start = (groupLiteral (filters.pathOf place)).toList) ∧
      Function.Injective groupLiteral := by
  intro filters
  refine ⟨source.groupings_script now, fun place => ?_, groupLiteral_injective⟩
  generalize filters.pathOf place = path
  have inside : letters (path.toList.flatMap groupCharacter) = path.toList.map groupLetter := by
    simpa [letters] using letters_flatMap_groupCharacter path.toList []
  refine ⟨_, toList_groupLiteral path, fun _ _ _ => odd_of_quote, ?_, ?_, ?_,
    fun _ _ => eq_groupLiteral_of_prefix⟩
  · rw [inside]
    exact List.forall_mem_map.mpr fun c _ =>
      ⟨groupLetter_ne_plain rfl, groupLetter_ne_plain rfl⟩
  · simp [inside, Function.comp_def]
  · simp [readArgument, argumentText?_groupLiteral]

example : groupLiteral "Src\\Say \"Hi\"" = "\"Src\\\\Say \\\"Hi\\\"\"" := by decide

end Groups

end Source

end ProjectScribe.Script
