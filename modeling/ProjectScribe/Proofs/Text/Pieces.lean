import ProjectScribe.Text.Pieces

/-!
# Laws of cutting

A text that was put together from pieces is cut into these pieces again, if the separator occurs
in none of them. What stands behind a text is seen in its last piece only, and how a text begins in
its first line.
-/
namespace ProjectScribe.Text

section Pieces

/-- A text without separators behind another one lengthens its last piece. -/
theorem pieces_append (isSeparator : Char → Bool) (text suffix : List Char)
    (plain : ∀ c ∈ suffix, isSeparator c = false) :
    ∃ before last, pieces isSeparator text = before ++ [last] ∧
      pieces isSeparator (text ++ suffix) = before ++ [last ++ suffix] := by
  induction text with
  | nil =>
    refine ⟨[], [], rfl, ?_⟩
    induction suffix with
    | nil => rfl
    | cons c rest inductionHypothesis =>
      have whole := inductionHypothesis fun other listed =>
        plain other (List.mem_cons_of_mem _ listed)
      simp only [List.nil_append] at whole ⊢
      simp [pieces, plain c List.mem_cons_self, whole]
  | cons c text inductionHypothesis =>
    obtain ⟨before, last, alone, longer⟩ := inductionHypothesis
    cases separates : isSeparator c with
    | true => exact ⟨[] :: before, last, by simp [pieces, separates, alone],
        by simp [pieces, separates, longer]⟩
    | false =>
      cases before with
      | nil => exact ⟨[], c :: last, by simp [pieces, separates, alone],
          by simp [pieces, separates, longer]⟩
      | cons first before =>
        exact ⟨(c :: first) :: before, last, by simp [pieces, separates, alone],
          by simp [pieces, separates, longer]⟩

/-- A text is cut at a separator whatever stands around it. -/
theorem pieces_append_separator (isSeparator : Char → Bool) (text rest : List Char) {c : Char}
    (separates : isSeparator c = true) :
    pieces isSeparator (text ++ c :: rest) =
      pieces isSeparator text ++ pieces isSeparator rest := by
  induction text with
  | nil => simp [pieces, separates]
  | cons first text inductionHypothesis =>
    rw [List.cons_append, pieces, pieces, inductionHypothesis]
    split
    · rfl
    · cases cut : pieces isSeparator text with
      | nil => exact absurd cut (pieces_ne_nil isSeparator text)
      | cons head others => rfl

/-- The last piece is empty only behind a separator. -/
theorem getLast?_of_pieces (isSeparator : Char → Bool) (text : List Char)
    {before : List (List Char)} (cut : pieces isSeparator text = before ++ [[]]) :
    text = [] ∨ ∃ c, text.getLast? = some c ∧ isSeparator c = true := by
  induction text generalizing before with
  | nil => exact .inl rfl
  | cons c rest inductionHypothesis =>
    right
    cases separates : isSeparator c with
    | true =>
      simp only [pieces, separates, if_true] at cut
      cases before with
      | nil => exact absurd (List.cons.inj cut).2 (pieces_ne_nil isSeparator rest)
      | cons first before =>
        rcases inductionHypothesis (List.cons.inj cut).2 with rfl | ⟨last, ends, closes⟩
        · exact ⟨c, rfl, separates⟩
        · exact ⟨last, by rw [List.getLast?_cons, ends]; rfl, closes⟩
    | false =>
      cases later : pieces isSeparator rest with
      | nil => exact absurd later (pieces_ne_nil isSeparator rest)
      | cons first others =>
        simp only [pieces, separates, later] at cut
        cases before with
        | nil => exact absurd (List.cons.inj cut).1 (List.cons_ne_nil c first)
        | cons _ before =>
          obtain ⟨-, tail⟩ := List.cons.inj cut
          have whole : pieces isSeparator rest = (first :: before) ++ [[]] := by
            rw [later, tail]
            rfl
          rcases inductionHypothesis whole with rfl | ⟨last, ends, closes⟩
          · simp [pieces] at whole
          · exact ⟨last, by rw [List.getLast?_cons, ends]; rfl, closes⟩

/-- A text without separators is one piece. -/
theorem pieces_of_plain (isSeparator : Char → Bool) (text : List Char)
    (plain : ∀ c ∈ text, isSeparator c = false) : pieces isSeparator text = [text] := by
  induction text with
  | nil => rfl
  | cons c rest inductionHypothesis =>
    have further := inductionHypothesis fun other listed =>
      plain other (List.mem_cons_of_mem c listed)
    simp [pieces, plain c List.mem_cons_self, further]

/-- No piece has a separator. -/
theorem plain_of_mem_pieces (isSeparator : Char → Bool) {text piece : List Char}
    (listed : piece ∈ pieces isSeparator text) : ∀ c ∈ piece, isSeparator c = false := by
  induction text generalizing piece with
  | nil =>
    rw [pieces, List.mem_singleton] at listed
    simp [listed]
  | cons first rest inductionHypothesis =>
    cases separates : isSeparator first with
    | true =>
      rw [pieces, if_pos separates, List.mem_cons] at listed
      rcases listed with rfl | further
      · simp
      · exact inductionHypothesis further
    | false =>
      cases cut : pieces isSeparator rest with
      | nil => exact absurd cut (pieces_ne_nil isSeparator rest)
      | cons head others =>
        simp only [pieces, separates, cut, Bool.false_eq_true, if_false, List.mem_cons] at listed
        rcases listed with rfl | further
        · refine List.forall_mem_cons.mpr ⟨separates, inductionHypothesis ?_⟩
          rw [cut]
          exact List.mem_cons_self
        · refine inductionHypothesis ?_
          rw [cut]
          exact List.mem_cons_of_mem head further

/-- Pieces without separators are found again in the text that joins them. -/
theorem pieces_intercalate (isSeparator : Char → Bool) (separator : Char)
    (separates : isSeparator separator = true) (list : List (List Char)) (filled : list ≠ [])
    (plain : ∀ piece ∈ list, ∀ c ∈ piece, isSeparator c = false) :
    pieces isSeparator ([separator].intercalate list) = list := by
  induction list with
  | nil => exact absurd rfl filled
  | cons first rest inductionHypothesis =>
    have firstPlain := pieces_of_plain isSeparator first (plain first List.mem_cons_self)
    cases rest with
    | nil => simpa using firstPlain
    | cons second others =>
      have further := inductionHypothesis (List.cons_ne_nil second others) fun piece listed =>
        plain piece (List.mem_cons_of_mem first listed)
      rw [List.intercalate_cons_cons, List.append_assoc, List.singleton_append,
        pieces_append_separator isSeparator first _ separates, firstPlain, further]
      rfl

/-- A text cut at a separator is put together again by joining its pieces with it. -/
theorem join_pieces (separator : Char) (text : List Char) :
    join [separator] (pieces (· == separator) text) = text := by
  induction text with
  | nil => rfl
  | cons c rest inductionHypothesis =>
    cases cut : pieces (· == separator) rest with
    | nil => exact absurd cut (pieces_ne_nil _ rest)
    | cons first others =>
      rw [cut] at inductionHypothesis
      by_cases separates : c = separator
      · simp [pieces, cut, separates, join, inductionHypothesis]
      · cases others with
        | nil => simpa [pieces, cut, separates, join] using inductionHypothesis
        | cons second others => simpa [pieces, cut, separates, join] using inductionHypothesis

/-- Where the pieces of a text are parted, a separator stands in the text. -/
theorem eq_append_of_pieces (isSeparator : Char → Bool) {text : List Char}
    {front back : List (List Char)} (filled : front ≠ []) (filledBack : back ≠ [])
    (cut : pieces isSeparator text = front ++ back) :
    ∃ left c right, text = left ++ c :: right ∧ isSeparator c = true ∧
      pieces isSeparator left = front ∧ pieces isSeparator right = back := by
  obtain ⟨piece, front, rfl⟩ := List.exists_cons_of_ne_nil filled
  induction text generalizing piece front with
  | nil =>
    have single := congrArg List.length cut
    have backFilled := List.length_pos_iff.mpr filledBack
    simp only [pieces, List.length_append, List.length_cons, List.length_nil] at single
    omega
  | cons c rest inductionHypothesis =>
    cases separates : isSeparator c with
    | true =>
      simp only [pieces, separates, if_true, List.cons_append] at cut
      obtain ⟨rfl, further⟩ := List.cons.inj cut
      cases front with
      | nil => exact ⟨[], c, rest, rfl, separates, rfl, further⟩
      | cons second front =>
        obtain ⟨left, other, right, rfl, parts, alone, behind⟩ :=
          inductionHypothesis second front (List.cons_ne_nil _ _) further
        exact ⟨c :: left, other, right, rfl, parts, by simp [pieces, separates, alone], behind⟩
    | false =>
      cases later : pieces isSeparator rest with
      | nil => exact absurd later (pieces_ne_nil isSeparator rest)
      | cons first others =>
        simp only [pieces, separates, later, List.cons_append] at cut
        obtain ⟨rfl, rfl⟩ := List.cons.inj cut
        obtain ⟨left, other, right, rfl, parts, alone, behind⟩ :=
          inductionHypothesis first front (List.cons_ne_nil _ _) later
        exact ⟨c :: left, other, right, rfl, parts, by simp [pieces, separates, alone], behind⟩

end Pieces

section First

/-- A text is cut at its first separator. -/
theorem cutAt_append {separator : Char} {before after : List Char}
    (plain : separator ∉ before) :
    cutAt separator (before ++ separator :: after) = some (before, after) := by
  induction before with
  | nil => simp [cutAt]
  | cons c before inductionHypothesis =>
    obtain ⟨other, further⟩ := List.ne_and_not_mem_of_not_mem_cons plain
    rw [List.cons_append, cutAt, if_neg (Ne.symm other), inductionHypothesis further]
    rfl

/-- A text is cut unless it is without the separator. -/
theorem cutAt_eq_none_iff {separator : Char} {text : List Char} :
    cutAt separator text = none ↔ separator ∉ text := by
  induction text with
  | nil => simp [cutAt]
  | cons c text inductionHypothesis =>
    rw [cutAt, List.mem_cons, not_or, ← inductionHypothesis]
    by_cases same : c = separator
    · simp [same]
    · simp [same, Ne.symm same]

/-- What stands before the first separator is without it. -/
theorem not_mem_of_cutAt {separator : Char} {text before after : List Char}
    (cut : cutAt separator text = some (before, after)) : separator ∉ before := by
  induction text generalizing before with
  | nil => simp [cutAt] at cut
  | cons c text inductionHypothesis =>
    rw [cutAt] at cut
    split at cut
    · cases cut
      exact List.not_mem_nil
    · next other =>
      obtain ⟨⟨front, back⟩, found, same⟩ := Option.map_eq_some_iff.mp cut
      cases same
      exact List.not_mem_cons_of_ne_of_not_mem (Ne.symm other) (inductionHypothesis found)

/-- A text is cut at the first occurrence of another if that cannot begin any earlier. -/
theorem cutAtText_append {s : Char} {start before after : List Char} (plain : s ∉ before) :
    cutAtText (s :: start) (before ++ (s :: start ++ after)) = some (before, after) := by
  induction before with
  | nil =>
    have found : afterStart? (s :: start) (s :: start ++ after) = some after :=
      afterStart?_eq_some_iff.mpr rfl
    rw [List.nil_append, List.cons_append, cutAtText, ← List.cons_append, found]
  | cons c before inductionHypothesis =>
    obtain ⟨other, further⟩ := List.ne_and_not_mem_of_not_mem_cons plain
    rw [List.cons_append, cutAtText, afterStart?, if_neg other, inductionHypothesis further]
    rfl

end First

section Lines

variable {start : List Char}

/-- A line loses nothing of its beginning, unless that ends with a carriage return. -/
theorem withoutReturn_append (ending : start.getLast? ≠ some '\r') (more : List Char) :
    ∃ further, withoutReturn (start ++ more) = start ++ further := by
  unfold withoutReturn
  split
  · next rest reversed =>
    rcases List.eq_nil_or_concat more with rfl | ⟨front, last, rfl⟩
    · rw [List.append_nil] at reversed
      rw [List.getLast?_eq_head?_reverse, reversed] at ending
      exact absurd rfl ending
    · rw [List.concat_eq_append, ← List.append_assoc, List.reverse_concat] at reversed
      obtain ⟨-, rfl⟩ := List.cons.inj reversed
      exact ⟨front, List.reverse_reverse _⟩
  · exact ⟨more, rfl⟩

theorem linesFrom_append (current rest : List Char) (unbroken : '\n' ∉ start) :
    linesFrom current (start ++ rest) = linesFrom (start.reverse ++ current) rest := by
  induction start generalizing current with
  | nil => rfl
  | cons c start inductionHypothesis =>
    obtain ⟨other, further⟩ := List.ne_and_not_mem_of_not_mem_cons unbroken
    rw [List.cons_append, linesFrom, if_neg (Ne.symm other), inductionHypothesis _ further]
    simp

/-- The first line of a text begins as the text does, unless this beginning is cut off or ends with
a carriage return. -/
theorem lines_append (filled : start ≠ []) (unbroken : '\n' ∉ start)
    (ending : start.getLast? ≠ some '\r') (rest : List Char) :
    ∃ further others, lines (start ++ rest) = (start ++ further) :: others := by
  have goes : ∀ read, ∃ further others,
      linesFrom (read ++ start.reverse) rest = (start ++ further) :: others := by
    intro read
    induction rest generalizing read with
    | nil => exact ⟨read.reverse, [], by simp [linesFrom, filled]⟩
    | cons c rest inductionHypothesis =>
      rw [linesFrom]
      split
      · obtain ⟨further, whole⟩ := withoutReturn_append ending read.reverse
        refine ⟨further, linesFrom [] rest, ?_⟩
        rw [List.reverse_append, List.reverse_reverse, whole]
      · exact inductionHypothesis (c :: read)
  rw [lines, linesFrom_append [] rest unbroken, List.append_nil]
  exact goes []

end Lines

end ProjectScribe.Text
