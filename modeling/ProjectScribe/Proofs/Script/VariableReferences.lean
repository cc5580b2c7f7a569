import ProjectScribe.Script.BuildVariable

/-!
# References to build variables

A text refers to a build variable where `$(`, a name and `)` stand side by side. No two references
overlap, so cutting the text from the left finds them all, and translating it replaces them all.

What takes their place could still make up a new reference with the text around it, such as the
name of the project file in `$(A$(ProjectFileName))`. Only a run of letters, digits and underscores
can do that: every expression but the name of the project file has another character, and so that
name decides whether references can remain.
-/
namespace ProjectScribe.Script

section References

/-- The name of a build variable: a letter or an underscore, and then digits too. -/
def IsVariableName (name : List Char) : Prop :=
  ∃ first rest, name = first :: rest ∧ Text.isIdentifierStart first = true ∧
    ∀ c ∈ rest, Text.isIdentifierRest c = true

/-- How texts refer to a build variable. -/
def referenceTo (name : List Char) : List Char := '$' :: '(' :: (name ++ [')'])

/-- A text refers to the build variable with a name. -/
def Refers (text name : List Char) : Prop := IsVariableName name ∧ referenceTo name <:+: text

/-- A text refers to some build variable. -/
def HasReference (text : String) : Prop := ∃ name, Refers text.toList name

variable {name text before after rest : List Char} {c : Char}

/-- A character with which an identifier starts may also stand later in it. -/
theorem isIdentifierRest_of_start (starts : Text.isIdentifierStart c = true) :
    Text.isIdentifierRest c = true := by
  simp only [Text.isIdentifierStart, Bool.or_eq_true] at starts
  simp only [Text.isIdentifierRest, Char.isAlphanum, Bool.or_eq_true]
  rcases starts with letter | underscore
  · exact .inl (.inl letter)
  · exact .inr underscore

theorem IsVariableName.forall_rest (named : IsVariableName name) :
    ∀ c ∈ name, Text.isIdentifierRest c = true := by
  obtain ⟨first, rest, rfl, starts, continues⟩ := named
  intro c inside
  rcases List.mem_cons.mp inside with rfl | further
  · exact isIdentifierRest_of_start starts
  · exact continues c further

/-- A reference has no characters but those of its name and the three around that. -/
theorem mem_referenceTo (named : IsVariableName name) (inside : c ∈ referenceTo name) :
    c = '$' ∨ c = '(' ∨ c = ')' ∨ Text.isIdentifierRest c = true := by
  simp only [referenceTo, List.mem_cons, List.mem_append, List.not_mem_nil, or_false] at inside
  rcases inside with dollar | opening | within | closing
  · exact .inl dollar
  · exact .inr (.inl opening)
  · exact .inr (.inr (.inr (named.forall_rest c within)))
  · exact .inr (.inr (.inl closing))

/-- Only the first character of a reference is a dollar sign. -/
theorem IsVariableName.dollar_not_mem (named : IsVariableName name) :
    '$' ∉ '(' :: (name ++ [')']) := by
  have outside : '$' ∉ name := fun inside => absurd (named.forall_rest '$' inside) (by decide)
  simp [outside]

/-- A name is found just where it stands before a closing parenthesis. -/
theorem variableName?_eq_some_iff : variableName? text = some (name, after) ↔
    IsVariableName name ∧ text = name ++ ')' :: after := by
  constructor
  · intro found
    cases text with
    | nil => cases found
    | cons first rest =>
      rw [variableName?] at found
      split at found
      · next starts =>
        split at found
        · next dropped =>
          obtain ⟨rfl, rfl⟩ := Prod.mk.inj (Option.some.inj found)
          refine ⟨⟨first, _, rfl, starts, List.all_eq_true.mp List.all_takeWhile⟩, ?_⟩
          rw [List.cons_append, ← dropped, List.takeWhile_append_dropWhile]
        · cases found
      · cases found
  · rintro ⟨⟨first, rest, rfl, starts, continues⟩, rfl⟩
    have stops : Text.isIdentifierRest ')' = false := by decide
    rw [List.cons_append, variableName?, if_pos starts,
      List.dropWhile_append_of_pos continues, List.takeWhile_append_of_pos continues]
    simp [stops]

/-- A text begins with a reference if a dollar sign and a parenthesis stand before the name. -/
theorem referenceTo_prefix_iff :
    referenceTo name <+: c :: text ↔ c = '$' ∧ ∃ after, text = '(' :: (name ++ ')' :: after) := by
  rw [referenceTo, List.cons_prefix_cons]
  constructor
  · rintro ⟨rfl, after, rfl⟩
    exact ⟨rfl, after, by simp⟩
  · rintro ⟨rfl, after, rfl⟩
    exact ⟨rfl, after, by simp⟩

/-- A reference is not found earlier than the first dollar sign. -/
theorem referenceTo_infix_append_iff (plain : '$' ∉ before) :
    referenceTo name <:+: before ++ text ↔ referenceTo name <:+: text := by
  induction before with
  | nil => rfl
  | cons first before inductionHypothesis =>
    obtain ⟨other, further⟩ := List.ne_and_not_mem_of_not_mem_cons plain
    rw [List.cons_append, List.infix_cons_iff, inductionHypothesis further, referenceTo_prefix_iff]
    constructor
    · rintro (⟨dollar, -⟩ | later)
      · exact absurd dollar.symm other
      · exact later
    · exact .inr

/-- A list without an element is at the start of another one only up to that element. -/
theorem prefix_append_cons_iff {α : Type} {part before after : List α} {a : α}
    (outside : a ∉ part) : part <+: before ++ a :: after ↔ part <+: before := by
  induction before generalizing part with
  | nil =>
    cases part with
    | nil => simp
    | cons first others =>
      obtain ⟨other, -⟩ := List.ne_and_not_mem_of_not_mem_cons outside
      simp [List.cons_prefix_cons, Ne.symm other]
  | cons b before inductionHypothesis =>
    cases part with
    | nil => simp
    | cons first others =>
      obtain ⟨-, further⟩ := List.ne_and_not_mem_of_not_mem_cons outside
      rw [List.cons_append, List.cons_prefix_cons, List.cons_prefix_cons,
        inductionHypothesis further]

/-- A list without an element lies in another one before that element or behind it. -/
theorem infix_append_cons_iff {α : Type} {part before after : List α} {a : α} (outside : a ∉ part) :
    part <:+: before ++ a :: after ↔ part <:+: before ∨ part <:+: after := by
  induction before with
  | nil =>
    have start : part <+: [] ++ a :: after ↔ part <+: [] := prefix_append_cons_iff outside
    rw [List.nil_append] at start ⊢
    rw [List.infix_cons_iff, start, List.prefix_nil, List.infix_nil]
  | cons b before inductionHypothesis =>
    have start : part <+: (b :: before) ++ a :: after ↔ part <+: b :: before :=
      prefix_append_cons_iff outside
    rw [List.cons_append] at start ⊢
    rw [List.infix_cons_iff, List.infix_cons_iff, start, inductionHypothesis, or_assoc]

/-- A text with a character that no reference has refers to what the texts around this refer to. -/
theorem refers_append_cons_iff (foreign : Text.isIdentifierRest c = false)
    (bare : c ∉ ['$', '(', ')']) :
    Refers (before ++ c :: after) name ↔ Refers before name ∨ Refers after name := by
  unfold Refers
  rw [← and_or_left]
  refine and_congr_right fun named => infix_append_cons_iff fun inside => ?_
  rcases mem_referenceTo named inside with rfl | rfl | rfl | allowed
  · exact bare (by simp)
  · exact bare (by simp)
  · exact bare (by simp)
  · rw [foreign] at allowed
    exact nomatch allowed

end References

section Pieces

/-- A text is cut into pieces from the left: a reference is a piece wherever one stands, and every
other character is one. -/
inductive Cut : List Char → List Piece → Prop where
  | nothing : Cut [] []
  | reference {name rest after : List Char} {pieces : List Piece}
      (found : variableName? rest = some (name, after)) (behind : Cut after pieces) :
      Cut ('$' :: '(' :: rest) (.variable name :: pieces)
  | plain {c : Char} {text : List Char} {pieces : List Piece}
      (none : ∀ rest, c :: text = '$' :: '(' :: rest → variableName? rest = none)
      (behind : Cut text pieces) : Cut (c :: text) (.plain c :: pieces)

variable {name text after rest : List Char} {c : Char} {pieces : List Piece}

/-- No more pieces are taken than there are characters. -/
theorem cut_piecesUpTo {steps : Nat} (enough : text.length ≤ steps) :
    Cut text (piecesUpTo steps text) := by
  fun_induction piecesUpTo steps text with
  | case1 text =>
    obtain rfl := List.eq_nil_of_length_eq_zero (Nat.le_zero.mp enough)
    exact .nothing
  | case2 => exact .nothing
  | case3 steps rest name after found inductionHypothesis =>
    have shorter := length_lt_of_variableName? found
    simp only [List.length_cons] at enough
    exact .reference found (inductionHypothesis (by omega))
  | case4 steps rest none inductionHypothesis =>
    simp only [List.length_cons] at enough
    have shorter := inductionHypothesis (by simp only [List.length_cons]; omega)
    refine .plain (fun other same => ?_) shorter
    obtain rfl := (List.cons.inj (List.cons.inj same).2).2
    exact none
  | case5 steps c rest other inductionHypothesis =>
    simp only [List.length_cons] at enough
    refine .plain (fun further same => ?_) (inductionHypothesis (by omega))
    obtain ⟨rfl, rfl⟩ := List.cons.inj same
    exact absurd rfl (other further rfl)

theorem cut_variablePieces (text : List Char) : Cut text (variablePieces text) :=
  cut_piecesUpTo (Nat.le_refl _)

/-- A text that begins with a reference refers to this variable and to those to which what stands
behind it refers. -/
theorem refers_reference_iff {other : List Char}
    (found : variableName? rest = some (other, after)) :
    Refers ('$' :: '(' :: rest) name ↔ name = other ∨ Refers after name := by
  obtain ⟨named, written⟩ := variableName?_eq_some_iff.mp found
  have behind : referenceTo name <:+: '(' :: rest ↔ referenceTo name <:+: after := by
    have skipped : referenceTo name <:+: '(' :: (other ++ [')']) ++ after ↔
        referenceTo name <:+: after := referenceTo_infix_append_iff named.dollar_not_mem
    rw [← skipped, written]
    simp
  unfold Refers
  rw [List.infix_cons_iff, referenceTo_prefix_iff, behind]
  constructor
  · rintro ⟨fits, ⟨-, others, same⟩ | later⟩
    · have foundToo := variableName?_eq_some_iff.mpr ⟨fits, (List.cons.inj same).2⟩
      rw [found] at foundToo
      exact .inl (Prod.mk.inj (Option.some.inj foundToo)).1.symm
    · exact .inr ⟨fits, later⟩
  · rintro (rfl | ⟨fits, later⟩)
    · exact ⟨named, .inl ⟨rfl, after, by rw [written]⟩⟩
    · exact ⟨fits, .inr later⟩

/-- A text that does not begin with a reference refers to what it refers to without its first
character. -/
theorem refers_cons_iff
    (none : ∀ rest, c :: text = '$' :: '(' :: rest → variableName? rest = none) :
    Refers (c :: text) name ↔ Refers text name := by
  unfold Refers
  refine and_congr_right fun named => ?_
  rw [List.infix_cons_iff, referenceTo_prefix_iff]
  constructor
  · rintro (⟨rfl, after, rfl⟩ | later)
    · have found := variableName?_eq_some_iff.mpr ⟨named, Eq.refl (name ++ ')' :: after)⟩
      rw [none _ rfl] at found
      exact nomatch found
    · exact later
  · exact .inr

/-- The references among the pieces of a text are those that it has. -/
theorem Cut.refers_iff (cut : Cut text pieces) : Refers text name ↔ .variable name ∈ pieces := by
  induction cut with
  | nothing => simp [Refers, referenceTo]
  | reference found behind inductionHypothesis =>
    rw [refers_reference_iff found, inductionHypothesis, List.mem_cons, Piece.variable.injEq]
  | plain none behind inductionHypothesis =>
    rw [refers_cons_iff none, inductionHypothesis, List.mem_cons]
    simp

/-- Cutting a text finds all references in it. -/
theorem mem_variablePieces_iff : .variable name ∈ variablePieces text ↔ Refers text name :=
  (cut_variablePieces text).refers_iff.symm

/-- Whether a piece is a reference. -/
def Piece.isReference : Piece → Bool
  | .plain _ => false
  | .variable _ => true

theorem hasReference_iff {text : String} :
    HasReference text ↔ (variablePieces text.toList).any Piece.isReference = true := by
  rw [List.any_eq_true]
  constructor
  · rintro ⟨name, refers⟩
    exact ⟨_, mem_variablePieces_iff.mpr refers, rfl⟩
  · rintro ⟨piece, listed, isReference⟩
    cases piece with
    | plain c => exact nomatch isReference
    | «variable» name => exact ⟨name, mem_variablePieces_iff.mp listed⟩

instance (text : String) : Decidable (HasReference text) := decidable_of_iff _ hasReference_iff.symm

end Pieces

section Translation

variable {names : ProjectNames} {name text after word : List Char} {pieces : List Piece}

/-- The text that takes the place of a reference. -/
def replacement (names : ProjectNames) (name : List Char) : List Char :=
  (translatePiece names (.variable name)).value

/-- Whether a dollar sign in a text has a parenthesis behind it or nothing at all, so that a
reference may begin there whatever follows the text. -/
def opens : List Char → Bool
  | [] => false
  | c :: rest => c == '$' && rest.head?.all (· == '(') || opens rest

/-- A text that is in no reference to which other text belongs: none begins in it, none ends in it,
and none passes through it. -/
structure Inert (text : List Char) : Prop where
  unopened : opens text = false
  unclosed : ')' ∉ text
  foreign : ∃ c ∈ text, Text.isIdentifierRest c = false ∧ c ≠ '('

instance (text : List Char) : Decidable (Inert text) :=
  decidable_of_iff (opens text = false ∧ ')' ∉ text ∧
      text.any (fun c => !Text.isIdentifierRest c && c != '(') = true)
    ⟨fun ⟨unopened, unclosed, foreign⟩ => ⟨unopened, unclosed, by simpa using foreign⟩,
      fun ⟨unopened, unclosed, foreign⟩ => ⟨unopened, unclosed, by simpa using foreign⟩⟩

/-- A text without dollar signs opens nothing. -/
theorem opens_of_plain (plain : '$' ∉ text) : opens text = false := by
  induction text with
  | nil => rfl
  | cons c rest inductionHypothesis =>
    obtain ⟨other, further⟩ := List.ne_and_not_mem_of_not_mem_cons plain
    simp [opens, Ne.symm other, inductionHypothesis further]

/-- Behind a text that opens nothing, there are only the references that are there without it. -/
theorem infix_of_unopened (unopened : opens text = false)
    (inside : referenceTo name <:+: text ++ after) : referenceTo name <:+: after := by
  induction text with
  | nil => exact inside
  | cons c rest inductionHypothesis =>
    rw [opens, Bool.or_eq_false_iff] at unopened
    rw [List.cons_append, List.infix_cons_iff] at inside
    rcases inside with first | later
    · exfalso
      obtain ⟨rfl, others, same⟩ := referenceTo_prefix_iff.mp first
      have opening : rest.head?.all (· == '(') = true := by
        cases rest with
        | nil => rfl
        | cons d rest =>
          obtain ⟨rfl, -⟩ := List.cons.inj same
          rfl
      simp [opening] at unopened
    · exact inductionHypothesis unopened.2 later

/-- The expressions that are the same for all projects. -/
def fixedExpressions : List String :=
  ["$\x7bCMAKE_CFG_INTDIR\x7d", "$\x7bV2C_BUILD_PLATFORM\x7d", "$\x7bPROJECT_NAME\x7d",
    "$\x7bPROJECT_SOURCE_DIR\x7d/", "$\x7bCMAKE_CURRENT_BINARY_DIR\x7d/$\x7bCMAKE_CFG_INTDIR\x7d",
    "$\x7bV2C_MASTER_PROJECT_SOURCE_DIR\x7d/",
    "$\x7bCMAKE_CURRENT_BINARY_DIR\x7d/$\x7bCMAKE_CFG_INTDIR\x7d/$\x7bPROJECT_NAME\x7d"]

theorem inert_fixed : ∀ expression ∈ fixedExpressions, Inert expression.toList := by
  decide +kernel

/-- An expression is one of those or the name of the project file. -/
theorem mem_of_expression? {lowered expression : String}
    (known : expression? names lowered = some expression) :
    expression ∈ fixedExpressions ∨ expression = names.file := by
  unfold expression? at known
  split at known <;> simp_all [fixedExpressions]

/-- What takes the place of a reference is inert if the name of the project file is. -/
theorem inert_replacement (file : Inert names.file.toList) (named : IsVariableName name) :
    Inert (replacement names name) := by
  rw [replacement, translatePiece]
  split
  · next expression known =>
    rcases mem_of_expression? known with fixed | rfl
    · exact inert_fixed expression fixed
    · exact file
  · have outside : ∀ c, Text.isIdentifierRest c = false → c ∉ name := by
      intro c foreign inside
      rw [named.forall_rest c inside] at foreign
      exact nomatch foreign
    have written : ("$ENV\x7b" ++ String.ofList name ++ "\x7d").toList =
        '$' :: ("ENV\x7b".toList ++ (name ++ ['\x7d'])) := by
      simp
    simp only [Reported.value_bind, Reported.value_pure]
    rw [written]
    refine ⟨?_, ?_, '$', List.mem_cons_self, by decide⟩
    · have behind : opens ("ENV\x7b".toList ++ (name ++ ['\x7d'])) = false :=
        opens_of_plain (by simp [outside '$' (by decide)])
      rw [opens, behind]
      rfl
    · simp [outside ')' (by decide)]

/-- What a piece becomes. -/
def translated (names : ProjectNames) : Piece → List Char
  | .plain c => [c]
  | .variable name => replacement names name

theorem value_translatePiece (piece : Piece) :
    (translatePiece names piece).value = translated names piece := by
  cases piece <;> rfl

theorem toList_value_translate (text : String) : (translate names text).value.toList =
    (variablePieces text.toList).flatMap (translated names) := by
  simp only [translate, Reported.value_bind, Reported.value_pure, Reported.value_forEach,
    String.toList_ofList, value_translatePiece, List.flatMap]

section Whole

variable (file : Inert names.file.toList)

include file

/-- A word of letters, digits, underscores and opening parentheses that stands before a closing one
at the start of a translated text stood there already: nothing that was put in fits into it. -/
theorem Cut.word_stood {text : List Char} (cut : Cut text pieces)
    (plain : ∀ c ∈ word, Text.isIdentifierRest c = true ∨ c = '(')
    (starts : pieces.flatMap (translated names) = word ++ ')' :: after) :
    ∃ rest, text = word ++ ')' :: rest := by
  induction cut generalizing word with
  | nothing => simp at starts
  | @reference name rest behind pieces found cut inductionHypothesis =>
    exfalso
    have inert := inert_replacement file (variableName?_eq_some_iff.mp found).1
    obtain ⟨c, inside, foreign, other⟩ := inert.foreign
    rw [List.flatMap_cons] at starts
    have fits : replacement names name <+: word :=
      (prefix_append_cons_iff inert.unclosed).mp ⟨_, starts⟩
    rcases plain c (fits.subset inside) with allowed | opening
    · rw [foreign] at allowed
      exact nomatch allowed
    · exact other opening
  | @plain c text pieces none cut inductionHypothesis =>
    rw [List.flatMap_cons] at starts
    cases word with
    | nil =>
      obtain ⟨rfl, -⟩ := List.cons.inj starts
      exact ⟨text, rfl⟩
    | cons first word =>
      obtain ⟨rfl, further⟩ := List.cons.inj starts
      obtain ⟨rest, rfl⟩ := inductionHypothesis
        (fun d listed => plain d (List.mem_cons_of_mem _ listed)) further
      exact ⟨rest, rfl⟩

/-- A translated text refers to nothing if the name of the project file is inert. -/
theorem Cut.not_refers {text : List Char} (cut : Cut text pieces) :
    ¬ Refers (pieces.flatMap (translated names)) name := by
  rintro ⟨named, inside⟩
  induction cut with
  | nothing => simp [referenceTo] at inside
  | reference found cut inductionHypothesis =>
    have inert := inert_replacement file (variableName?_eq_some_iff.mp found).1
    exact inductionHypothesis (infix_of_unopened inert.unopened inside)
  | @plain c text pieces none cut inductionHypothesis =>
    rw [List.flatMap_cons, translated, List.singleton_append, List.infix_cons_iff] at inside
    rcases inside with first | later
    · -- The parenthesis and the name stood behind the dollar sign before, so this was a reference.
      obtain ⟨rfl, after, starts⟩ := referenceTo_prefix_iff.mp first
      have plain : ∀ c ∈ '(' :: name, Text.isIdentifierRest c = true ∨ c = '(' := by
        intro c listed
        rcases List.mem_cons.mp listed with rfl | listed
        · exact .inr rfl
        · exact .inl (named.forall_rest c listed)
      obtain ⟨rest, rfl⟩ := cut.word_stood file plain starts
      have found := variableName?_eq_some_iff.mpr ⟨named, Eq.refl (name ++ ')' :: rest)⟩
      exact nomatch found.symm.trans (none (name ++ ')' :: rest) rfl)
    · exact inductionHypothesis later

end Whole

/-- A name of a project file without the characters around the name in a reference is inert if it
has a character that no name of a variable has. -/
theorem inert_file (free : ∀ c ∈ names.file.toList, c ∉ ['$', '(', ')'])
    (foreign : ∃ c ∈ names.file.toList, Text.isIdentifierRest c = false) :
    Inert names.file.toList := by
  obtain ⟨c, inside, foreign⟩ := foreign
  refine ⟨opens_of_plain fun dollar => ?_, fun closing => ?_, c, inside, foreign, ?_⟩
  · exact free '$' dollar (by simp)
  · exact free ')' closing (by simp)
  · rintro rfl
    exact free '(' inside (by simp)

/-- Translated texts refer to no variable at all just if the name of the project file has a
character that no name of a variable has, such as a dot. -/
theorem translate_wholly_iff (free : ∀ c ∈ names.file.toList, c ∉ ['$', '(', ')']) :
    (∀ text, ¬ HasReference (translate names text).value) ↔
      ∃ c ∈ names.file.toList, Text.isIdentifierRest c = false := by
  constructor
  · intro whole
    by_cases foreign : ∃ c ∈ names.file.toList, Text.isIdentifierRest c = false
    · exact foreign
    exfalso
    have continues : ∀ c ∈ names.file.toList, Text.isIdentifierRest c = true := by
      intro c inside
      cases allowed : Text.isIdentifierRest c with
      | true => rfl
      | false => exact absurd ⟨c, inside, allowed⟩ foreign
    -- The name of the project file becomes part of the name of a variable.
    apply whole "$(A$(ProjectFileName))"
    refine ⟨'A' :: names.file.toList, ⟨_, _, rfl, by decide, continues⟩, ?_⟩
    have pieces : variablePieces "$(A$(ProjectFileName))".toList =
        [.plain '$', .plain '(', .plain 'A', .variable "ProjectFileName".toList, .plain ')'] := by
      decide
    have put : replacement names "ProjectFileName".toList = names.file.toList := rfl
    rw [toList_value_translate, pieces]
    simp only [List.flatMap_cons, List.flatMap_nil, translated, put, referenceTo]
    simp
  · rintro foreign text ⟨name, refers⟩
    rw [toList_value_translate] at refers
    exact (cut_variablePieces text.toList).not_refers (inert_file free foreign) refers

/-- A text asks for the platform if it refers to a variable that is the platform. -/
def AsksForPlatform (text : String) : Prop :=
  ∃ name, Refers text.toList name ∧ isPlatform (Text.lower (String.ofList name)) = true

/-- Only the two names of the platform have its expression. -/
theorem expression?_of_isPlatform {lowered : String} (isPlatform : isPlatform lowered = true) :
    expression? names lowered = some "$\x7bV2C_BUILD_PLATFORM\x7d" := by
  simp only [Script.isPlatform, decide_eq_true_eq, List.mem_cons, List.not_mem_nil, or_false]
    at isPlatform
  rcases isPlatform with rfl | rfl <;> rfl

/-- It is remarked of a text that it asks for the platform just if it does. -/
theorem platformUsed_mem_translate {text : String} :
    .platformUsed ∈ (translate names text).notes ↔ AsksForPlatform text := by
  have each : ∀ piece, Remark.platformUsed ∈ (translatePiece names piece).notes ↔
      ∃ name, piece = .variable name ∧
        isPlatform (Text.lower (String.ofList name)) = true := by
    intro piece
    cases piece with
    | plain c => simp [translatePiece]
    | «variable» name =>
      rw [translatePiece]
      split
      · simp
      · next unknown =>
        have other : isPlatform (Text.lower (String.ofList name)) = false := by
          cases platform : isPlatform (Text.lower (String.ofList name)) with
          | false => rfl
          | true =>
            rw [expression?_of_isPlatform platform] at unknown
            exact nomatch unknown
        simp [other]
  simp only [translate, Reported.notes_bind, Reported.notes_forEach, Reported.notes_pure,
    List.append_nil, List.mem_flatMap, each]
  constructor
  · rintro ⟨_, listed, name, rfl, platform⟩
    exact ⟨name, mem_variablePieces_iff.mp listed, platform⟩
  · rintro ⟨name, refers, platform⟩
    exact ⟨_, mem_variablePieces_iff.mpr refers, name, rfl, platform⟩

end Translation

end ProjectScribe.Script
