import Mathlib.Data.List.DropRight
import ProjectScribe.Text.Blank

/-!
# Laws of trimming and of words

Removing a class of characters from the ends of a text changes nothing if and only if the text
begins and ends outside of the class. A text that trimming has gone over is such a text, and so is
one that joins such texts. The words of a text are those before a blank in it and those behind it,
and together they are its characters without the blanks.
-/
namespace ProjectScribe.Text

/-- A text that neither begins nor ends with a character of a class. The empty text is one. -/
structure EndsOutside (drop : Char → Bool) (text : List Char) : Prop where
  first : ∀ c ∈ text.head?, drop c = false
  last : ∀ c ∈ text.getLast?, drop c = false

section Ends

variable (drop : Char → Bool)

/-- What begins outside of a class loses nothing in front. -/
theorem dropWhile_eq_self {text : List Char} (first : ∀ c ∈ text.head?, drop c = false) :
    text.dropWhile drop = text := by
  cases text with
  | nil => rfl
  | cons c rest => rw [List.dropWhile_cons_of_neg (by simp [first c rfl])]

/-- What ends outside of a class loses nothing behind. -/
theorem dropEndWhile_eq_self {text : List Char} (last : ∀ c ∈ text.getLast?, drop c = false) :
    dropEndWhile drop text = text := by
  rw [dropEndWhile, dropWhile_eq_self drop (by simpa using last), List.reverse_reverse]

/-- A character outside of a class protects what stands before it. -/
theorem dropEndWhile_append_cons (before after : List Char) {c : Char} (kept : drop c = false) :
    dropEndWhile drop (before ++ c :: after) = before ++ c :: dropEndWhile drop after := by
  rw [dropEndWhile, dropEndWhile, List.reverse_append, List.reverse_cons, List.append_assoc,
    List.dropWhile_append]
  split
  · rename_i gone
    simp [List.isEmpty_iff.mp gone, List.dropWhile_cons_of_neg, kept]
  · simp

/-- A character outside of a class protects what stands before it from both ends, if that begins
outside of the class too. -/
theorem strip_append_cons (before after : List Char) {c : Char}
    (first : ∀ other ∈ before.head?, drop other = false) (kept : drop c = false) :
    strip drop (before ++ c :: after) = before ++ c :: dropEndWhile drop after := by
  have begins : ∀ other ∈ (before ++ c :: after).head?, drop other = false := by
    intro other found
    cases before with
    | nil =>
      cases found
      exact kept
    | cons head rest => exact first other found
  rw [strip, dropWhile_eq_self drop begins, dropEndWhile_append_cons drop before after kept]

/-- What is left of a text begins as the text does, unless nothing is left. -/
theorem head?_dropEndWhile {text : List Char} {c : Char}
    (begins : c ∈ (dropEndWhile drop text).head?) : c ∈ text.head? := by
  have start : dropEndWhile drop text <+: text := List.rdropWhile_prefix drop text
  obtain ⟨rest, whole⟩ := start
  rw [← whole, List.head?_append, Option.mem_def.mp begins]
  rfl

/-- What is left of a text ends outside of the class. -/
theorem getLast?_dropEndWhile {text : List Char} {c : Char}
    (ends : c ∈ (dropEndWhile drop text).getLast?) : drop c = false := by
  rw [dropEndWhile, List.getLast?_reverse] at ends
  have stopped := List.head?_dropWhile_not drop text.reverse
  rw [Option.mem_def.mp ends] at stopped
  exact stopped

/-- Removing a class from both ends takes nothing away in between. -/
theorem strip_infix (text : List Char) : strip drop text <:+: text := by
  have front : text.dropWhile drop <:+: text := (List.dropWhile_suffix drop).isInfix
  have back : dropEndWhile drop (text.dropWhile drop) <:+: text.dropWhile drop :=
    (List.rdropWhile_prefix drop _).isInfix
  exact back.trans front

/-- Removing a class from both ends leaves a text with both ends outside of the class. -/
theorem endsOutside_strip (text : List Char) : EndsOutside drop (strip drop text) where
  first := by
    intro c begins
    have stopped := List.head?_dropWhile_not drop text
    rw [Option.mem_def.mp (head?_dropEndWhile drop begins)] at stopped
    exact stopped
  last := fun _ ends => getLast?_dropEndWhile drop ends

variable {drop}

/-- Nothing is removed from a text with both ends outside of the class. -/
theorem EndsOutside.strip_eq {text : List Char} (outside : EndsOutside drop text) :
    strip drop text = text := by
  rw [strip, dropWhile_eq_self drop outside.first, dropEndWhile_eq_self drop outside.last]

/-- A text between two characters outside of a class has these at its ends. -/
theorem EndsOutside.of_wrapped (text : List Char) {c : Char} (kept : drop c = false) :
    EndsOutside drop (c :: (text ++ [c])) where
  first := by
    intro other begins
    cases begins
    exact kept
  last := by
    intro other ends
    rw [← List.cons_append, List.getLast?_concat] at ends
    cases ends
    exact kept

/-- What stands between two characters of a class is laid bare when these are removed. -/
theorem EndsOutside.strip_wrapped {text : List Char} {c : Char} (outside : EndsOutside drop text)
    (filled : text ≠ []) (dropped : drop c = true) : strip drop (c :: (text ++ [c])) = text := by
  have begins : ∀ other ∈ (text ++ [c]).head?, drop other = false := by
    rw [List.head?_append_of_ne_nil _ filled]
    exact outside.first
  have ends : dropEndWhile drop (text ++ [c]) = dropEndWhile drop text :=
    List.rdropWhile_concat_pos drop text c dropped
  rw [strip, List.dropWhile_cons_of_pos dropped, dropWhile_eq_self drop begins, ends,
    dropEndWhile_eq_self drop outside.last]

/-- A character of a class at the end goes when the class is removed from both ends. -/
theorem strip_concat (text : List Char) {c : Char} (dropped : drop c = true) :
    strip drop (text ++ [c]) = strip drop text := by
  rw [strip, strip, List.dropWhile_append]
  split
  · next gone =>
    rw [List.isEmpty_iff.mp gone, List.dropWhile_cons_of_pos dropped]
    rfl
  · exact List.rdropWhile_concat_pos drop _ c dropped

theorem strip_eq_self_iff {text : List Char} : strip drop text = text ↔ EndsOutside drop text := by
  constructor
  · intro same
    rw [← same]
    exact endsOutside_strip drop text
  · exact EndsOutside.strip_eq

/-- A text without any character of the class has both ends outside of it. -/
theorem EndsOutside.of_forall {text : List Char} (free : ∀ c ∈ text, drop c = false) :
    EndsOutside drop text where
  first := fun c begins => free c (List.mem_of_mem_head? begins)
  last := fun c ends => free c (List.mem_of_mem_getLast? ends)

/-- A character outside of the class is not removed. -/
theorem mem_strip_iff {text : List Char} {c : Char} (kept : drop c = false) :
    c ∈ strip drop text ↔ c ∈ text := by
  have inDropped : ∀ list : List Char, c ∈ list.dropWhile drop ↔ c ∈ list := by
    intro list
    refine ⟨fun inside => (List.dropWhile_sublist drop).subset inside, fun inside => ?_⟩
    rw [← List.takeWhile_append_dropWhile (p := drop) (l := list), List.mem_append] at inside
    refine inside.resolve_left fun taken => ?_
    rw [List.mem_takeWhile_imp taken] at kept
    exact Bool.noConfusion kept
  rw [strip, dropEndWhile, List.mem_reverse, inDropped, List.mem_reverse, inDropped]

/-- Texts with both ends outside of a class are still so with a character between them that does
not belong to it. -/
theorem EndsOutside.append_cons {before after : List Char} {c : Char}
    (left : EndsOutside drop before) (kept : drop c = false) (right : EndsOutside drop after) :
    EndsOutside drop (before ++ c :: after) := by
  rw [← strip_eq_self_iff, strip_append_cons drop before after left.first kept,
    dropEndWhile_eq_self drop right.last]

/-- Removing a class from both ends again changes nothing. -/
theorem strip_strip (text : List Char) : strip drop (strip drop text) = strip drop text :=
  (endsOutside_strip drop text).strip_eq

/-- What joins texts with both ends outside of a class is such a text, whatever joins them. -/
theorem EndsOutside.intercalate (separator : List Char) (list : List (List Char))
    (outside : ∀ text ∈ list, text ≠ [] ∧ EndsOutside drop text) :
    EndsOutside drop (separator.intercalate list) ∧
      (list ≠ [] → separator.intercalate list ≠ []) := by
  induction list with
  | nil => exact ⟨.of_forall (by simp), by simp⟩
  | cons first rest inductionHypothesis =>
    obtain ⟨filled, firstOutside⟩ := outside first List.mem_cons_self
    cases rest with
    | nil => exact ⟨by simpa using firstOutside, by simpa using filled⟩
    | cons second others =>
      obtain ⟨restOutside, restFilled⟩ := inductionHypothesis fun text listed =>
        outside text (List.mem_cons_of_mem first listed)
      have behind := restFilled (List.cons_ne_nil second others)
      rw [List.intercalate_cons_cons]
      refine ⟨⟨fun c begins => firstOutside.first c ?_, fun c ends => restOutside.last c ?_⟩,
        fun _ => by simp [filled]⟩
      · rw [List.append_assoc, List.head?_append_of_ne_nil _ filled] at begins
        exact begins
      · rw [List.getLast?_append_of_ne_nil _ behind] at ends
        exact ends

/-- So is what joins them by a character outside of the class, even if some of them are empty. -/
theorem EndsOutside.intercalate_kept {c : Char} (kept : drop c = false) (list : List (List Char))
    (outside : ∀ text ∈ list, EndsOutside drop text) : EndsOutside drop ([c].intercalate list) := by
  induction list with
  | nil => exact .of_forall (by simp)
  | cons first rest inductionHypothesis =>
    obtain ⟨firstOutside, restOutside⟩ := List.forall_mem_cons.mp outside
    cases rest with
    | nil => simpa using firstOutside
    | cons second others =>
      rw [List.intercalate_cons_cons, List.append_assoc, List.singleton_append]
      exact firstOutside.append_cons kept (inductionHypothesis restOutside)

/-- Blanks in front of a text are trimmed with those of the text. -/
theorem trim_append_of_blank {gap text : List Char} (blank : ∀ c ∈ gap, isBlank c = true) :
    trim (gap ++ text) = trim text := by
  rw [trim, trim, strip, strip, List.dropWhile_append_of_pos blank]

end Ends

section Words

/-- Characters that are no blanks belong to the word under way. -/
theorem wordsFrom_append (current word rest : List Char)
    (dense : ∀ c ∈ word, isBlank c = false) :
    wordsFrom current (word ++ rest) = wordsFrom (word.reverse ++ current) rest := by
  induction word generalizing current with
  | nil => rfl
  | cons c word inductionHypothesis =>
    have further := inductionHypothesis (c :: current) fun other listed =>
      dense other (List.mem_cons_of_mem c listed)
    rw [List.cons_append, wordsFrom, if_neg (by simp [dense c List.mem_cons_self]), further]
    simp

/-- A blank ends the word under way, and what stands behind it is read on its own. -/
theorem wordsFrom_append_cons (current before after : List Char) {c : Char}
    (blank : isBlank c = true) :
    wordsFrom current (before ++ c :: after) = wordsFrom current before ++ words after := by
  induction before generalizing current with
  | nil =>
    rw [List.nil_append]
    simp only [wordsFrom, blank, if_true]
    split <;> rfl
  | cons other before inductionHypothesis =>
    rw [List.cons_append, wordsFrom, wordsFrom]
    by_cases stops : isBlank other = true
    · rw [if_pos stops, if_pos stops, inductionHypothesis]
      split <;> rfl
    · rw [if_neg stops, if_neg stops, inductionHypothesis]

/-- The words of a text are those before a blank in it and those behind it. -/
theorem words_append_cons (before after : List Char) {c : Char} (blank : isBlank c = true) :
    words (before ++ c :: after) = words before ++ words after :=
  wordsFrom_append_cons [] before after blank

/-- A text without blanks is one word. -/
theorem words_of_dense {word : List Char} (filled : word ≠ [])
    (dense : ∀ c ∈ word, isBlank c = false) : words word = [word] := by
  have whole := wordsFrom_append [] word [] dense
  rw [List.append_nil, List.append_nil] at whole
  rw [words, whole, wordsFrom, if_neg (by simpa using filled), List.reverse_reverse]

/-- Texts that are joined by spaces have the words of each of them. -/
theorem words_joined (list : List (List Char)) :
    words ([' '].intercalate list) = list.flatMap words := by
  induction list with
  | nil => rfl
  | cons first rest inductionHypothesis =>
    cases rest with
    | nil => simp
    | cons second others =>
      rw [List.intercalate_cons_cons, List.append_assoc, List.singleton_append,
        words_append_cons _ _ rfl, inductionHypothesis]
      rfl

/-- The words of a text hold its characters in order, without the blanks. -/
theorem flatten_wordsFrom (current text : List Char) :
    (wordsFrom current text).flatten = current.reverse ++ text.filter (!isBlank ·) := by
  induction text generalizing current with
  | nil => cases current <;> simp [wordsFrom]
  | cons c rest inductionHypothesis =>
    rw [wordsFrom]
    by_cases blank : isBlank c = true
    · cases current <;> simp [blank, inductionHypothesis]
    · simp [blank, inductionHypothesis]

theorem flatten_words (text : List Char) : (words text).flatten = text.filter (!isBlank ·) :=
  flatten_wordsFrom [] text

/-- No word is empty. -/
theorem ne_nil_of_mem_wordsFrom {current text word : List Char}
    (listed : word ∈ wordsFrom current text) : word ≠ [] := by
  induction text generalizing current with
  | nil => cases current <;> simp_all [wordsFrom]
  | cons c rest inductionHypothesis =>
    rw [wordsFrom] at listed
    split at listed
    · split at listed
      · exact inductionHypothesis listed
      · rename_i filled
        obtain rfl | later := List.mem_cons.mp listed
        · simpa using filled
        · exact inductionHypothesis later
    · exact inductionHypothesis listed

/-- A word is not empty, and it has characters of the text that are no blanks. -/
theorem of_mem_words {text word : List Char} (listed : word ∈ words text) :
    word ≠ [] ∧ ∀ c ∈ word, c ∈ text ∧ isBlank c = false := by
  refine ⟨ne_nil_of_mem_wordsFrom listed, fun c within => ?_⟩
  have kept : c ∈ (words text).flatten := List.mem_flatten.mpr ⟨word, listed, within⟩
  rw [flatten_words, List.mem_filter, Bool.not_eq_true'] at kept
  exact kept

/-- A text with a character that is no blank has a word. -/
theorem words_ne_nil {text : List Char} {c : Char} (listed : c ∈ text)
    (kept : isBlank c = false) : words text ≠ [] := by
  intro none
  have left : c ∈ text.filter (!isBlank ·) := List.mem_filter.mpr ⟨listed, by simp [kept]⟩
  rw [← flatten_words, none] at left
  exact List.not_mem_nil left

/-- A text with no blanks at its ends is one word exactly if there are none within it either. -/
theorem length_words_eq_one_iff {text : List Char} (filled : text ≠ [])
    (outside : EndsOutside isBlank text) :
    (words text).length = 1 ↔ ∀ c ∈ text, isBlank c = false := by
  constructor
  · intro single c listed
    by_contra blank
    rw [Bool.not_eq_false] at blank
    obtain ⟨before, after, rfl⟩ := List.append_of_mem listed
    have front : words before ≠ [] := by
      cases before with
      | nil => exact absurd blank (by simp [outside.first c rfl])
      | cons first others => exact words_ne_nil List.mem_cons_self (outside.first first rfl)
    have back : words after ≠ [] := by
      rcases List.eq_nil_or_concat after with rfl | ⟨others, last, rfl⟩
      · exact absurd blank (by simp [outside.last c (by simp)])
      · refine words_ne_nil (c := last) (by simp) (outside.last last ?_)
        rw [List.concat_eq_append, ← List.cons_append, ← List.append_assoc]
        exact List.getLast?_concat
    rw [words_append_cons _ _ blank, List.length_append] at single
    have frontLength := List.length_pos_iff.mpr front
    have backLength := List.length_pos_iff.mpr back
    omega
  · intro dense
    rw [words_of_dense filled dense]
    rfl

section Wrapped

variable {drop : Char → Bool} {c : Char}

/-- A character of a class in front of the word under way is gone when the words are stripped of
the class. -/
theorem strip_wordsFrom_concat (dropped : drop c = true) {current text : List Char}
    (goesOn : current = [] → text ≠ []) (dense : current = [] → ∀ first ∈ text.head?,
      isBlank first = false) :
    (wordsFrom (current ++ [c]) text).map (strip drop) =
      (wordsFrom current text).map (strip drop) := by
  have bare : ∀ word, strip drop (c :: word) = strip drop word := fun word => by
    rw [strip, List.dropWhile_cons_of_pos dropped, strip]
  induction text generalizing current with
  | nil =>
    have filled : current ≠ [] := fun empty => goesOn empty rfl
    simp [wordsFrom, filled, bare]
  | cons first rest inductionHypothesis =>
    rw [wordsFrom, wordsFrom]
    by_cases blank : isBlank first = true
    · have filled : current ≠ [] := fun empty =>
        absurd blank (by simp [dense empty first rfl])
      simp [blank, filled, bare]
    · rw [if_neg blank, if_neg blank]
      exact @inductionHypothesis (first :: current) (by simp) (by simp)

/-- A character of a class behind the last word is gone when the words are stripped of the
class. -/
theorem strip_wordsFrom_append (dropped : drop c = true) (kept : isBlank c = false)
    {current text : List Char} (goesOn : text = [] → current ≠ [])
    (dense : ∀ last ∈ text.getLast?, isBlank last = false) :
    (wordsFrom current (text ++ [c])).map (strip drop) =
      (wordsFrom current text).map (strip drop) := by
  induction text generalizing current with
  | nil => simp [wordsFrom, kept, goesOn rfl, strip_concat _ dropped]
  | cons first rest inductionHypothesis =>
    rw [List.cons_append, wordsFrom, wordsFrom]
    have further : ∀ next : List Char, (rest = [] → next ≠ []) →
        (wordsFrom next (rest ++ [c])).map (strip drop) =
          (wordsFrom next rest).map (strip drop) := fun next filled =>
      inductionHypothesis filled fun last ends => dense last (by
        rw [List.getLast?_cons, Option.mem_def.mp ends]
        rfl)
    by_cases blank : isBlank first = true
    · have filled : rest ≠ [] := by
        rintro rfl
        exact absurd blank (by simp [dense first rfl])
      have same := further [] fun empty => absurd empty filled
      rw [if_pos blank, if_pos blank]
      split
      · exact same
      · rw [List.map_cons, List.map_cons, same]
    · rw [if_neg blank, if_neg blank]
      exact further (first :: current) fun _ => List.cons_ne_nil first current

/-- Between two characters of a class a text with no blanks at its ends has the words that it has
by itself, up to characters of the class at their ends. -/
theorem strip_words_wrapped (dropped : drop c = true) (kept : isBlank c = false)
    {text : List Char} (filled : text ≠ []) (outside : EndsOutside isBlank text) :
    (words (c :: (text ++ [c]))).map (strip drop) = (words text).map (strip drop) := by
  have back : (wordsFrom [c] (text ++ [c])).map (strip drop) =
      (wordsFrom [c] text).map (strip drop) :=
    strip_wordsFrom_append dropped kept (fun empty => absurd empty filled) outside.last
  have front : (wordsFrom ([] ++ [c]) text).map (strip drop) =
      (wordsFrom [] text).map (strip drop) :=
    strip_wordsFrom_concat dropped (fun _ => filled) fun _ => outside.first
  rw [words, wordsFrom, if_neg (by simp [kept]), back]
  exact front

end Wrapped

end Words

end ProjectScribe.Text
