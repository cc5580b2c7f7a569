import ProjectScribe.Proofs.Text.Blank
import ProjectScribe.Proofs.Text.Pieces
import ProjectScribe.Reading.Value

/-!
# Lists in values

A value that joins items by semicolons is read as these items in their bare form, as long as the
items are free of separators and something is left of each of them. Nothing is lost of an item
that has neither blanks nor quotes at its ends.
-/
namespace ProjectScribe.Reading

/-- An item in its bare form. -/
def bare (item : String) : String := String.ofList (bareItem item.toList)

/-- Nothing is lost of an item with neither blanks nor quotes at its ends. -/
theorem bareItem_eq_self {item : List Char} (blank : Text.EndsOutside Text.isBlank item)
    (quote : Text.EndsOutside isQuote item) : bareItem item = item := by
  rw [bareItem, Text.trim, Text.trim, blank.strip_eq, quote.strip_eq, blank.strip_eq]

@[simp] theorem toList_trimmed (value : String) : (trimmed value).toList = Text.trim value.toList :=
  String.toList_ofList

/-- Trimming a trimmed value changes nothing. -/
@[simp] theorem trimmed_trimmed (value : String) : trimmed (trimmed value) = trimmed value := by
  rw [trimmed, toList_trimmed, Text.trim, Text.trim, Text.strip_strip]
  rfl

theorem trimmed_eq_self_iff {value : String} :
    trimmed value = value ↔ Text.EndsOutside Text.isBlank value.toList := by
  rw [← Text.strip_eq_self_iff, ← String.toList_inj, toList_trimmed]
  rfl

/-- A value that joins trimmed items is trimmed. -/
theorem trimmed_intercalate (separator : String) (list : List String)
    (ends : ∀ item ∈ list, item ≠ "" ∧ trimmed item = item) :
    trimmed (separator.intercalate list) = separator.intercalate list := by
  rw [trimmed_eq_self_iff, String.toList_intercalate]
  refine (Text.EndsOutside.intercalate _ _ ?_).1
  intro text joined
  obtain ⟨item, listed, rfl⟩ := List.mem_map.mp joined
  obtain ⟨filled, whole⟩ := ends item listed
  exact ⟨by simpa using filled, trimmed_eq_self_iff.mp whole⟩

/-- The items of a joined value are what was joined, in bare form. -/
theorem items_intercalate (isSeparator : Char → Bool) (separates : isSeparator ';' = true)
    (list : List String) (plain : ∀ item ∈ list, ∀ c ∈ item.toList, isSeparator c = false)
    (filled : ∀ item ∈ list, bare item ≠ "") :
    items isSeparator (";".intercalate list) = list.map bare := by
  cases list with
  | nil => simp [items, Text.pieces, bareItem, Text.strip, Text.dropEndWhile]
  | cons first rest =>
    have cut := Text.pieces_intercalate isSeparator ';' separates
      ((first :: rest).map String.toList) (by simp) (by simpa using plain)
    have kept : ∀ text ∈ ((first :: rest).map String.toList).map bareItem,
        (!text.isEmpty) = true := by
      intro text left
      rw [List.map_map] at left
      obtain ⟨item, listed, rfl⟩ := List.mem_map.mp left
      simpa [bare] using filled item listed
    rw [items, String.toList_intercalate, show ";".toList = [';'] from rfl, cut,
      List.filter_eq_self.mpr kept, List.map_map, List.map_map]
    rfl

/-- A value that joins texts by spaces has the words of each of them. -/
theorem words_joined (list : List String) :
    words (" ".intercalate list) = list.flatMap words := by
  rw [words, String.toList_intercalate, show " ".toList = [' '] from rfl, Text.words_joined,
    List.flatMap_map, List.map_flatMap]
  rfl

/-- A text without blanks is one word. -/
theorem words_of_dense {word : String} (filled : word ≠ "")
    (dense : ∀ c ∈ word.toList, Text.isBlank c = false) : words word = [word] := by
  rw [words, Text.words_of_dense (by simpa using filled) dense, List.map_singleton,
    String.ofList_toList]

/-- The words of a value that joins words by spaces. -/
theorem words_intercalate (list : List String)
    (dense : ∀ word ∈ list, word ≠ "" ∧ ∀ c ∈ word.toList, Text.isBlank c = false) :
    words (" ".intercalate list) = list := by
  rw [words_joined, List.flatMap_congr fun word listed =>
    words_of_dense (dense word listed).1 (dense word listed).2, List.flatMap_singleton']

/-- A library keeps a name without its extension. -/
theorem libraryName_ne_empty {name : String} (filled : name ≠ "")
    (blank : Text.EndsOutside Text.isBlank name.toList)
    (quote : Text.EndsOutside isQuote name.toList) : libraryName name ≠ "" := by
  rw [libraryName, Text.trim, blank.strip_eq, quote.strip_eq]
  split
  · rename_i long
    have length : 4 < name.toList.length := by
      rw [Bool.and_eq_true, decide_eq_true_eq] at long
      exact long.1
    intro empty
    have gone : (name.toList.take (name.toList.length - 4)).length = 0 := by
      rw [String.ofList_eq_empty_iff.mp empty]
      rfl
    rw [List.length_take] at gone
    omega
  · rw [String.ofList_toList]
    exact filled

/-- Whether an item stands for inherited values is seen at its start. -/
theorem isInherited_iff {item : String} :
    isInherited item = true ↔ ['%', '('] <+: item.toList := by
  rw [isInherited, Text.startsWith, Option.isSome_iff_exists]
  constructor
  · rintro ⟨rest, found⟩
    exact ⟨rest, (Text.afterStart?_eq_some_iff.mp found).symm⟩
  · rintro ⟨rest, whole⟩
    exact ⟨rest, Text.afterStart?_eq_some_iff.mpr whole.symm⟩

end ProjectScribe.Reading
