import Mathlib.Data.List.Chain
import ProjectScribe.Proofs.Text.Blank
import ProjectScribe.Script.Quoting

/-!
# Which arguments are quoted

Whether an argument needs quotes is decided by looking at two characters side by side. What this
decides is a matter of whole runs of blanks: an argument goes without quotes exactly if it is not
empty and each of its runs of blanks has nothing or a closing brace before it, and nothing or a
dollar sign behind it.

Quoting gives or takes one pair of quotes, or does nothing. What it gives it does not take again,
so quoting a second time changes something only where a pair was taken and another one is in vain
inside of it.
-/
namespace ProjectScribe.Script

section Runs

/-- A whole run of blanks in a text, with what stands before it and what stands behind it. -/
structure BlankRun (text before run after : List Char) : Prop where
  parts : text = before ++ run ++ after
  filled : run ≠ []
  blank : ∀ c ∈ run, Text.isBlank c = true
  /-- The run does not begin any earlier. -/
  first : ∀ c ∈ before.getLast?, Text.isBlank c = false
  /-- The run does not go on. -/
  last : ∀ c ∈ after.head?, Text.isBlank c = false

/-- A run of blanks that keeps no ordinary text apart: there is nothing or a closing brace before
it, and nothing or a dollar sign behind it. -/
def IsHarmless (before after : List Char) : Prop :=
  (before = [] ∨ before.getLast? = some '\x7d') ∧ (after = [] ∨ after.head? = some '$')

variable {text before run after : List Char} {c left right : Char}

/-- A blank with no blank before it begins a run. -/
theorem BlankRun.beginning (first : ∀ other ∈ before.getLast?, Text.isBlank other = false)
    (blank : Text.isBlank c = true) (rest : List Char) :
    BlankRun (before ++ c :: rest) before (c :: rest.takeWhile Text.isBlank)
      (rest.dropWhile Text.isBlank) where
  parts := by simp
  filled := List.cons_ne_nil _ _
  blank := by
    intro other listed
    rcases List.mem_cons.mp listed with rfl | further
    · exact blank
    · exact List.mem_takeWhile_imp further
  first := first
  last := by
    intro other begins
    have stopped := List.head?_dropWhile_not Text.isBlank rest
    rw [Option.mem_def.mp begins] at stopped
    exact stopped

/-- A blank with no blank behind it ends a run. -/
theorem BlankRun.ending (before : List Char) (blank : Text.isBlank c = true)
    (last : ∀ other ∈ after.head?, Text.isBlank other = false) :
    BlankRun (before ++ c :: after) (Text.dropEndWhile Text.isBlank before)
      ((before.reverse.takeWhile Text.isBlank).reverse ++ [c]) after where
  parts := by
    have whole : Text.dropEndWhile Text.isBlank before ++
        (before.reverse.takeWhile Text.isBlank).reverse = before := by
      rw [Text.dropEndWhile, ← List.reverse_append, List.takeWhile_append_dropWhile,
        List.reverse_reverse]
    rw [← List.append_assoc, whole, List.append_assoc]
    rfl
  filled := by simp
  blank := by
    intro other listed
    rcases List.mem_append.mp listed with earlier | here
    · exact List.mem_takeWhile_imp (List.mem_reverse.mp earlier)
    · rw [List.mem_singleton.mp here]
      exact blank
  first := fun _ ends => Text.getLast?_dropEndWhile _ ends
  last := last

/-- Two characters side by side that need no quotes. -/
def FitTogether (left right : Char) : Prop :=
  splitsAfter left right = false ∧ splitsBefore left right = false

theorem splitsAfter_eq_false_iff : splitsAfter left right = false ↔
    (Text.isBlank right = true → Text.isBlank left = false → left = '\x7d') := by
  rw [splitsAfter]
  cases Text.isBlank left <;> cases Text.isBlank right <;> simp

theorem splitsBefore_eq_false_iff : splitsBefore left right = false ↔
    (Text.isBlank left = true → Text.isBlank right = false → right = '$') := by
  rw [splitsBefore]
  cases Text.isBlank left <;> cases Text.isBlank right <;> simp

/-- No blank in a text has ordinary text beside it if all neighbours fit together. -/
theorem isSplit_eq_false_iff : isSplit text = false ↔ text.IsChain FitTogether := by
  induction text using isSplit.induct with
  | case1 left right rest inductionHypothesis =>
    rw [isSplit, List.isChain_cons_cons, ← inductionHypothesis, Bool.or_eq_false_iff,
      Bool.or_eq_false_iff]
    rfl
  | case2 text short =>
    cases text with
    | nil => simp [isSplit]
    | cons c rest =>
      cases rest with
      | nil => simp [isSplit]
      | cons second rest => exact absurd rfl (short c second rest)

/-- In a text whose neighbours fit together no run of blanks keeps ordinary text apart. -/
theorem BlankRun.isHarmless (here : BlankRun text before run after)
    (fit : text.IsChain FitTogether) : IsHarmless before after := by
  obtain ⟨parts, filled, blank, first, last⟩ := here
  constructor
  · rcases List.eq_nil_or_concat before with rfl | ⟨front, left, rfl⟩
    · exact .inl rfl
    right
    obtain ⟨right, others, rfl⟩ := List.exists_cons_of_ne_nil filled
    have neighbours : text = front ++ left :: right :: (others ++ after) := by simp [parts]
    have together : FitTogether left right :=
      List.isChain_iff_forall_rel_of_append_cons_cons.mp fit neighbours
    have brace : left = '\x7d' := splitsAfter_eq_false_iff.mp together.1
      (blank right List.mem_cons_self) (first left (by simp))
    rw [brace, List.concat_eq_append, List.getLast?_concat]
  · cases after with
    | nil => exact .inl rfl
    | cons right back =>
      right
      rcases List.eq_nil_or_concat run with rfl | ⟨others, left, rfl⟩
      · exact absurd rfl filled
      have neighbours : text = (before ++ others) ++ left :: right :: back := by simp [parts]
      have together : FitTogether left right :=
        List.isChain_iff_forall_rel_of_append_cons_cons.mp fit neighbours
      have dollar : right = '$' := splitsBefore_eq_false_iff.mp together.2
        (blank left (by simp)) (last right rfl)
      rw [dollar, List.head?_cons]

/-- All neighbours fit together exactly if no run of blanks keeps ordinary text apart. Each blank
beside ordinary text is at an end of its run. -/
theorem isChain_fitTogether_iff : text.IsChain FitTogether ↔
    ∀ before run after, BlankRun text before run after → IsHarmless before after := by
  constructor
  · exact fun fit before run after here => here.isHarmless fit
  · intro harmless
    rw [List.isChain_iff_forall_rel_of_append_cons_cons]
    intro left right front back parts
    constructor
    · rw [splitsAfter_eq_false_iff]
      intro blank ordinary
      have first : ∀ other ∈ (front ++ [left]).getLast?, Text.isBlank other = false := by
        simpa using ordinary
      have here := BlankRun.beginning first blank back
      rw [List.append_assoc, List.singleton_append, ← parts] at here
      simpa using (harmless _ _ _ here).1
    · rw [splitsBefore_eq_false_iff]
      intro blank ordinary
      have last : ∀ other ∈ (right :: back).head?, Text.isBlank other = false := by
        simpa using ordinary
      have here := BlankRun.ending front blank last
      rw [← parts] at here
      simpa using (harmless _ _ _ here).2

/-- An argument needs no quotes exactly if it is not empty and each run of blanks in it is at the
start or has a closing brace before it, and is at the end or has a dollar sign behind it. -/
theorem needsQuoting_eq_false_iff (text : List Char) : needsQuoting text = false ↔
    text ≠ [] ∧ ∀ before run after, BlankRun text before run after →
      (before = [] ∨ before.getLast? = some '\x7d') ∧ (after = [] ∨ after.head? = some '$') := by
  have runs : isSplit text = false ↔
      ∀ before run after, BlankRun text before run after → IsHarmless before after :=
    isSplit_eq_false_iff.trans isChain_fitTogether_iff
  rw [needsQuoting, Bool.or_eq_false_iff, List.isEmpty_eq_false_iff, runs]
  rfl

example : needsQuoting " $\x7bA\x7d \t $\x7bB\x7d ".toList = false := by decide
example : needsQuoting "$\x7bA\x7d \t b".toList = true := by decide

/-- A text that is not empty needs no quotes if a text in which it lies needs none. -/
theorem needsQuoting_of_within {part : List Char} (inside : part <:+: text) (filled : part ≠ [])
    (bare : needsQuoting text = false) : needsQuoting part = false := by
  rw [needsQuoting, Bool.or_eq_false_iff, isSplit_eq_false_iff] at bare ⊢
  exact ⟨List.isEmpty_eq_false_iff.mpr filled, List.IsChain.infix bare.2 inside⟩

end Runs

section Twice

/-- A text between one pair of quotes. -/
def wrapped (text : List Char) : List Char := '"' :: (text ++ ['"'])

variable {text inner : List Char}

theorem length_wrapped (text : List Char) : (wrapped text).length = text.length + 2 := by
  simp [wrapped]

theorem wrapped_ne (text : List Char) : wrapped text ≠ text := by
  intro same
  have lengths := congrArg List.length same
  rw [length_wrapped] at lengths
  omega

theorem inside_wrapped (text : List Char) : inside (wrapped text) = text := by
  rw [inside, wrapped, List.tail_cons, List.dropLast_concat]

theorem wrapped_inj : wrapped text = wrapped inner ↔ text = inner :=
  ⟨fun same => by rw [← inside_wrapped text, same, inside_wrapped], congrArg wrapped⟩

theorem mem_wrapped {c : Char} (other : c ≠ '"') : c ∈ wrapped text ↔ c ∈ text := by
  simp [wrapped, other]

/-- A text has quotes if it is another text between them. -/
theorem hasQuotes_iff : hasQuotes text = true ↔ ∃ inner, text = wrapped inner := by
  constructor
  · intro quoted
    simp only [hasQuotes, Bool.and_eq_true, decide_eq_true_eq, beq_iff_eq] at quoted
    obtain ⟨⟨long, begins⟩, ends⟩ := quoted
    cases text with
    | nil => cases begins
    | cons first rest =>
      obtain rfl := Option.some.inj begins
      rcases List.eq_nil_or_concat rest with rfl | ⟨inner, last, rfl⟩
      · simp at long
      · rw [List.concat_eq_append, ← List.cons_append, List.getLast?_concat] at ends
        obtain rfl := Option.some.inj ends
        exact ⟨inner, by simp [wrapped]⟩
  · rintro ⟨inner, rfl⟩
    have ends : (wrapped inner).getLast? = some '"' := by
      rw [wrapped, ← List.cons_append, List.getLast?_concat]
    simp [hasQuotes, length_wrapped, ends]
    rfl

/-- Quotes are taken away if they are in vain and there is no list between them. -/
theorem quoteIfNeeded_wrapped (inner : List Char) : quoteIfNeeded (wrapped inner) =
    if needsQuoting inner = false ∧ ';' ∉ inner then inner else wrapped inner := by
  have quoted : hasQuotes (wrapped inner) = true := hasQuotes_iff.mpr ⟨inner, rfl⟩
  have listed : (wrapped inner).contains ';' = decide (';' ∈ inner) := by
    rw [List.contains_eq_mem, decide_eq_decide]
    exact mem_wrapped (by decide)
  rw [quoteIfNeeded, if_pos quoted, inside_wrapped, listed]
  simp

/-- A text that does not begin with a quote does not stand between quotes. -/
theorem hasQuotes_of_head?_ne (start : text.head? ≠ some '"') : hasQuotes text = false := by
  simp [hasQuotes, start]

/-- Quotes are given to a text without quotes if it needs them. -/
theorem quoteIfNeeded_of_bare (bare : hasQuotes text = false) : quoteIfNeeded text =
    if needsQuoting text = true then wrapped text else text := by
  rw [quoteIfNeeded, bare, if_neg Bool.false_ne_true]
  rfl

/-- Quoting gives a pair of quotes that is needed, takes one that is not, or changes nothing. -/
theorem quoteIfNeeded_cases (text : List Char) : quoteIfNeeded text = text ∨
    quoteIfNeeded text = wrapped text ∧ needsQuoting text = true ∨
      ∃ inner, text = wrapped inner ∧ quoteIfNeeded text = inner ∧ needsQuoting inner = false := by
  cases quoted : hasQuotes text with
  | true =>
    obtain ⟨inner, rfl⟩ := hasQuotes_iff.mp quoted
    rw [quoteIfNeeded_wrapped]
    split
    · next inVain => exact .inr (.inr ⟨inner, rfl, rfl, inVain.1⟩)
    · exact .inl rfl
  | false =>
    rw [quoteIfNeeded_of_bare quoted]
    split
    · next needed => exact .inr (.inl ⟨rfl, needed⟩)
    · exact .inl rfl

/-- A text that needs no quotes is left as it is, unless it has a pair of quotes in vain. -/
theorem quoteIfNeeded_eq_self_iff (unneeded : needsQuoting text = false) :
    quoteIfNeeded text = text ↔
      ¬ ∃ inner, text = wrapped inner ∧ needsQuoting inner = false ∧ ';' ∉ inner := by
  cases quoted : hasQuotes text with
  | true =>
    obtain ⟨inner, rfl⟩ := hasQuotes_iff.mp quoted
    rw [quoteIfNeeded_wrapped]
    split
    · next inVain =>
      exact iff_of_false (wrapped_ne inner).symm fun none => none ⟨inner, rfl, inVain⟩
    · next kept =>
      refine iff_of_true rfl ?_
      rintro ⟨other, isOther, inVain⟩
      obtain rfl := wrapped_inj.mp isOther
      exact kept inVain
  | false =>
    rw [quoteIfNeeded_of_bare quoted, if_neg (by simp [unneeded])]
    refine iff_of_true rfl ?_
    rintro ⟨inner, rfl, -⟩
    rw [hasQuotes_iff.mpr ⟨inner, rfl⟩] at quoted
    cases quoted

/-- What quoting gives it does not take again. -/
theorem quoteIfNeeded_of_needed (needed : needsQuoting text = true) :
    quoteIfNeeded (wrapped text) = wrapped text := by
  rw [quoteIfNeeded_wrapped, if_neg]
  rintro ⟨unneeded, -⟩
  rw [needed] at unneeded
  cases unneeded

/-- Quoting a second time changes nothing, except for a text in two pairs of quotes that are both
in vain: it loses one pair each time. -/
theorem quoteIfNeeded_twice_iff (text : List Char) :
    quoteIfNeeded (quoteIfNeeded text) = quoteIfNeeded text ↔
      ¬ ∃ inner, inner ≠ [] ∧ text = wrapped (wrapped inner) ∧ ';' ∉ text ∧
        needsQuoting (wrapped inner) = false := by
  -- Such a text loses its outer pair.
  have loses : ∀ {inner}, ';' ∉ wrapped (wrapped inner) → needsQuoting (wrapped inner) = false →
      quoteIfNeeded (wrapped (wrapped inner)) = wrapped inner := by
    intro inner plain unneeded
    have bare : ';' ∉ wrapped inner := fun listed => plain ((mem_wrapped (by decide)).mpr listed)
    rw [quoteIfNeeded_wrapped, if_pos ⟨unneeded, bare⟩]
  rcases quoteIfNeeded_cases text with same | ⟨given, needed⟩ | ⟨outer, rfl, taken, unneeded⟩
  · rw [same, same]
    refine iff_of_true rfl ?_
    rintro ⟨inner, -, rfl, plain, unneeded⟩
    rw [loses plain unneeded] at same
    exact wrapped_ne _ same.symm
  · rw [given, quoteIfNeeded_of_needed needed]
    refine iff_of_true rfl ?_
    rintro ⟨inner, -, rfl, plain, unneeded⟩
    rw [loses plain unneeded] at given
    have lengths := congrArg List.length given
    simp only [length_wrapped] at lengths
    omega
  · have plain : ';' ∉ outer := by
      intro listed
      rw [quoteIfNeeded_wrapped, if_neg fun both => both.2 listed] at taken
      exact wrapped_ne outer taken
    rw [taken, quoteIfNeeded_eq_self_iff unneeded]
    refine not_congr ⟨?_, ?_⟩
    · rintro ⟨inner, rfl, bare, -⟩
      refine ⟨inner, ?_, rfl, fun listed => plain ((mem_wrapped (by decide)).mp listed), unneeded⟩
      rintro rfl
      cases bare
    · rintro ⟨inner, filled, same, -, -⟩
      obtain rfl := wrapped_inj.mp same
      refine ⟨inner, rfl, ?_, fun listed => plain ((mem_wrapped (by decide)).mpr listed)⟩
      exact needsQuoting_of_within ⟨['"'], ['"'], rfl⟩ filled unneeded

/-- Quoting an argument a second time changes nothing, except for a text in two pairs of quotes
without a semicolon, neither empty between them nor in need of the outer pair. Quoting once changes
nothing, or gives one pair of quotes to an argument that needs them, or takes one pair that what
stands between them does not need. -/
theorem argument_twice_iff (text : String) :
    (argument (argument text) = argument text ↔
      ¬ ∃ inner : String, inner ≠ "" ∧ text = "\"\"" ++ inner ++ "\"\"" ∧ ';' ∉ text.toList ∧
        needsQuoting ("\"" ++ inner ++ "\"").toList = false) ∧
    (argument text = text ∨
      argument text = "\"" ++ text ++ "\"" ∧ needsQuoting text.toList = true ∨
      ∃ inner : String, text = "\"" ++ inner ++ "\"" ∧ argument text = inner ∧
        needsQuoting inner.toList = false) := by
  have between : ∀ inner : String, ("\"" ++ inner ++ "\"").toList = wrapped inner.toList := by
    intro inner
    simp [wrapped]
  have within : ∀ inner : String, ("\"\"" ++ inner ++ "\"\"").toList =
      wrapped (wrapped inner.toList) := by
    intro inner
    simp [wrapped]
  have written : (argument text).toList = quoteIfNeeded text.toList := String.toList_ofList
  constructor
  · rw [← String.toList_inj, argument, String.toList_ofList, written, quoteIfNeeded_twice_iff]
    refine not_congr ⟨?_, ?_⟩
    · rintro ⟨inner, filled, parts, plain, unneeded⟩
      refine ⟨String.ofList inner, ?_, ?_, plain, ?_⟩
      · simpa using filled
      · rw [← String.toList_inj, within, String.toList_ofList, parts]
      · rw [between, String.toList_ofList, unneeded]
    · rintro ⟨inner, filled, parts, plain, unneeded⟩
      refine ⟨inner.toList, by simpa using filled, ?_, plain, ?_⟩
      · rw [parts, within]
      · rw [← between, unneeded]
  · rcases quoteIfNeeded_cases text.toList with same | ⟨given, needed⟩ | ⟨inner, parts, taken, bare⟩
    · left
      rw [← String.toList_inj, written, same]
    · right; left
      exact ⟨by rw [← String.toList_inj, written, given, between], needed⟩
    · right; right
      refine ⟨String.ofList inner, ?_, ?_, by rw [String.toList_ofList, bare]⟩
      · rw [← String.toList_inj, between, String.toList_ofList, parts]
      · rw [← String.toList_inj, written, taken, String.toList_ofList]

example : argument "\"\"a\"\"" = "\"a\"" ∧ argument "\"a\"" = "a" := by decide
example : argument "\"\"a b\"\"" = "\"\"a b\"\"" ∧ argument "\"\"\"\"" = "\"\"" := by decide

end Twice

end ProjectScribe.Script
