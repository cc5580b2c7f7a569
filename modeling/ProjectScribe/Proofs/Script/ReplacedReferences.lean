import Mathlib.Data.List.Basic
import ProjectScribe.Proofs.Script.VariableReferences

/-!
# References replaced in place

A translated text is the text itself with something else in the place of each reference to a build
variable. Wherever a reference stands in a text it is a piece of it, since references do not
overlap, and all other characters stay as they are and where they are, those that only look like
part of a reference included.

If what stands for a variable makes up no new reference, a translated text has none left, and
translating it again changes nothing.
-/
namespace ProjectScribe.Script

section Occurrences

variable {name first text before after rest : List Char} {pieces : List Piece}

/-- The characters of a piece. -/
def Piece.written : Piece → List Char
  | .plain c => [c]
  | .variable name => referenceTo name

/-- No text is lost or added by cutting it. -/
theorem Cut.flatMap_written (cut : Cut text pieces) : pieces.flatMap Piece.written = text := by
  induction cut with
  | nothing => rfl
  | reference found behind inductionHypothesis =>
    rw [List.flatMap_cons, inductionHypothesis, Piece.written, referenceTo,
      (variableName?_eq_some_iff.mp found).2]
    simp
  | plain none behind inductionHypothesis =>
    rw [List.flatMap_cons, inductionHypothesis]
    rfl

/-- What is cut out as a reference has a name of a variable. -/
theorem Cut.isVariableName (cut : Cut text pieces) (listed : .variable name ∈ pieces) :
    IsVariableName name := by
  induction cut with
  | nothing => cases listed
  | reference found behind inductionHypothesis =>
    rcases List.mem_cons.mp listed with here | later
    · obtain rfl := Piece.variable.inj here
      exact (variableName?_eq_some_iff.mp found).1
    · exact inductionHypothesis later
  | plain none behind inductionHypothesis =>
    rcases List.mem_cons.mp listed with here | later
    · cases here
    · exact inductionHypothesis later

/-- A reference that stands in a text beginning with another one is this one, or it stands behind
it: no dollar sign is in what follows the first one of a reference. -/
theorem eq_nil_or_behind_of_reference (named : IsVariableName first)
    (same : referenceTo first ++ rest = before ++ (referenceTo name ++ after)) :
    before = [] ∨ ∃ between, before = referenceTo first ++ between ∧
      rest = between ++ (referenceTo name ++ after) := by
  rcases List.append_eq_append_iff.mp same with ⟨between, behind, further⟩ | ⟨last, parts, further⟩
  · exact .inr ⟨between, behind, further⟩
  cases before with
  | nil => exact .inl rfl
  | cons c before =>
    right
    cases last with
    | nil => exact ⟨[], by simpa using parts.symm, by simpa using further.symm⟩
    | cons d last =>
      exfalso
      obtain ⟨rfl, -⟩ := List.cons.inj further
      obtain ⟨-, inside⟩ := List.cons.inj parts
      refine named.dollar_not_mem ?_
      rw [inside]
      exact List.mem_append_right _ List.mem_cons_self

/-- Wherever a reference stands in a text, it is a piece of the text. -/
theorem Cut.exists_of_occurrence (cut : Cut text pieces) (named : IsVariableName name)
    (parts : text = before ++ (referenceTo name ++ after)) :
    ∃ front back, pieces = front ++ .variable name :: back ∧
      front.flatMap Piece.written = before ∧ back.flatMap Piece.written = after := by
  induction cut generalizing before with
  | nothing => simp [referenceTo] at parts
  | @reference first rest behind pieces found cut inductionHypothesis =>
    obtain ⟨firstNamed, written⟩ := variableName?_eq_some_iff.mp found
    have whole : referenceTo first ++ behind = before ++ (referenceTo name ++ after) := by
      rw [← parts, written, referenceTo]
      simp
    rcases eq_nil_or_behind_of_reference firstNamed whole with rfl | ⟨between, rfl, further⟩
    · have foundToo : variableName? rest = some (name, after) := by
        rw [variableName?_eq_some_iff]
        refine ⟨named, ?_⟩
        simpa [referenceTo] using parts
      rw [found] at foundToo
      obtain ⟨rfl, rfl⟩ := Prod.mk.inj (Option.some.inj foundToo)
      exact ⟨[], pieces, rfl, rfl, cut.flatMap_written⟩
    · obtain ⟨front, back, rfl, ahead, following⟩ := inductionHypothesis further
      refine ⟨.variable first :: front, back, rfl, ?_, following⟩
      rw [List.flatMap_cons, ahead]
      rfl
  | @plain c rest pieces none cut inductionHypothesis =>
    cases before with
    | nil =>
      exfalso
      obtain ⟨rfl, further⟩ := List.cons.inj parts
      have found : variableName? (name ++ ')' :: after) = some (name, after) :=
        variableName?_eq_some_iff.mpr ⟨named, rfl⟩
      rw [none (name ++ ')' :: after) (by simp [further])] at found
      cases found
    | cons d before =>
      obtain ⟨rfl, further⟩ := List.cons.inj parts
      obtain ⟨front, back, rfl, ahead, following⟩ := inductionHypothesis further
      refine ⟨.plain c :: front, back, rfl, ?_, following⟩
      rw [List.flatMap_cons, ahead]
      rfl

/-- The references in a text are its pieces that are references, in the same places. -/
theorem Cut.occurrence_iff (cut : Cut text pieces) :
    IsVariableName name ∧ text = before ++ (referenceTo name ++ after) ↔
      ∃ front back, pieces = front ++ .variable name :: back ∧
        front.flatMap Piece.written = before ∧ back.flatMap Piece.written = after := by
  constructor
  · rintro ⟨named, parts⟩
    exact cut.exists_of_occurrence named parts
  · rintro ⟨front, back, rfl, rfl, rfl⟩
    refine ⟨cut.isVariableName (by simp), ?_⟩
    rw [← cut.flatMap_written, List.flatMap_append, List.flatMap_cons]
    rfl

end Occurrences

section Replacing

variable {names : ProjectNames} {name : List Char}

/-- The variables that have an expression, with their expressions. -/
def knownVariables (names : ProjectNames) : List (String × String) :=
  [("ConfigurationName", "$\x7bCMAKE_CFG_INTDIR\x7d"),
    ("Configuration", "$\x7bCMAKE_CFG_INTDIR\x7d"),
    ("PlatformName", "$\x7bV2C_BUILD_PLATFORM\x7d"),
    ("Platform", "$\x7bV2C_BUILD_PLATFORM\x7d"),
    ("ProjectName", "$\x7bPROJECT_NAME\x7d"),
    ("InputName", "$\x7bPROJECT_NAME\x7d"),
    ("TargetName", "$\x7bPROJECT_NAME\x7d"),
    ("ProjectDir", "$\x7bPROJECT_SOURCE_DIR\x7d/"),
    ("ProjectFileName", names.file),
    ("OutDir", "$\x7bCMAKE_CURRENT_BINARY_DIR\x7d/$\x7bCMAKE_CFG_INTDIR\x7d"),
    ("SolutionDir", "$\x7bV2C_MASTER_PROJECT_SOURCE_DIR\x7d/"),
    ("TargetPath",
      "$\x7bCMAKE_CURRENT_BINARY_DIR\x7d/$\x7bCMAKE_CFG_INTDIR\x7d/$\x7bPROJECT_NAME\x7d")]

/-- What stands for a variable: the expression of the known one with this name, up to the case of
the letters, and else the variable of the environment with exactly this name. -/
def standsFor (names : ProjectNames) (name : String) : String :=
  match (knownVariables names).find? fun known => Text.sameLetters known.1 name with
  | some known => known.2
  | none => "$ENV\x7b" ++ name ++ "\x7d"

/-- The names of the known variables without capitals. -/
theorem lower_knownVariables (names : ProjectNames) :
    (knownVariables names).map (fun known => Text.lower known.1) =
      ["configurationname", "configuration", "platformname", "platform", "projectname",
        "inputname", "targetname", "projectdir", "projectfilename", "outdir", "solutiondir",
        "targetpath"] := by
  simp [knownVariables, Text.lower, Text.lowerChar]

/-- The expressions are those of the known variables. -/
theorem expression?_lower (names : ProjectNames) (name : String) :
    expression? names (Text.lower name) =
      ((knownVariables names).find? fun known => Text.sameLetters known.1 name).map (·.2) := by
  have spellings := lower_knownVariables names
  have compared : ∀ known : String × String, Text.sameLetters known.1 name =
      decide (Text.lower known.1 = Text.lower name) := by
    intro known
    rw [Bool.eq_iff_iff, Text.sameLetters_iff, decide_eq_true_iff]
  simp only [compared]
  unfold expression?
  split
  case h_13 =>
    -- No known variable has this name.
    have unknown : (knownVariables names).find?
        (fun known => decide (Text.lower known.1 = Text.lower name)) = none := by
      rw [List.find?_eq_none]
      intro known listed same
      have among := List.mem_map_of_mem (f := fun known => Text.lower known.1) listed
      rw [spellings, decide_eq_true_iff.mp same] at among
      simp_all
    rw [unknown]
    rfl
  all_goals
    next same =>
      simp only [knownVariables, List.map_cons, List.cons.injEq] at spellings
      simp [knownVariables, spellings, same]

theorem replacement_eq : replacement names name = (standsFor names (String.ofList name)).toList := by
  have known := expression?_lower names (String.ofList name)
  rw [replacement, translatePiece, standsFor]
  cases found : (knownVariables names).find?
      fun known => Text.sameLetters known.1 (String.ofList name) with
  | some entry =>
    rw [found] at known
    rw [known]
    rfl
  | none =>
    rw [found] at known
    rw [known]
    rfl

/-- What stands in a script for a piece. -/
def Piece.inScript (names : ProjectNames) : Piece → List Char
  | .plain c => [c]
  | .variable name => (standsFor names (String.ofList name)).toList

/-- Translating puts for each piece what stands for it. -/
theorem toList_translate (text : String) : (translate names text).value.toList =
    (variablePieces text.toList).flatMap (Piece.inScript names) := by
  rw [toList_value_translate]
  refine List.flatMap_congr fun piece _ => ?_
  cases piece with
  | plain c => rfl
  | «variable» name => exact replacement_eq

/-- A text without references is translated to itself. -/
theorem translate_eq_self {text : String} (free : ¬ HasReference text) :
    (translate names text).value = text := by
  have same : (variablePieces text.toList).flatMap (Piece.inScript names) =
      (variablePieces text.toList).flatMap Piece.written := by
    refine List.flatMap_congr fun piece listed => ?_
    cases piece with
    | plain c => rfl
    | «variable» name => exact absurd ⟨name, mem_variablePieces_iff.mp listed⟩ free
  rw [← String.toList_inj, toList_translate, same]
  exact (cut_variablePieces text.toList).flatMap_written

/-- If the name of the project file has none of the characters around the name in a reference, but
one that no name of a variable has, then a translated text has no references, and translating it
again changes nothing. It is the text with its references replaced in place: the text consists of
pieces, of which the references are those that stand in it, each in its place, and all others are
single characters; and what stands for a variable is put for each reference, while all others
stay. -/
theorem translate_in_place (names : ProjectNames)
    (plain : ∀ c ∈ names.file.toList, c ∉ ['$', '(', ')'])
    (foreign : ∃ c ∈ names.file.toList, Text.isIdentifierRest c = false) (text : String) :
    ¬ HasReference (translate names text).value ∧
    (translate names (translate names text).value).value = (translate names text).value ∧
    ∃ pieces : List Piece, pieces.flatMap Piece.written = text.toList ∧
      (∀ before name after,
        IsVariableName name ∧ text.toList = before ++ (referenceTo name ++ after) ↔
          ∃ front back, pieces = front ++ .variable name :: back ∧
            front.flatMap Piece.written = before ∧ back.flatMap Piece.written = after) ∧
      (translate names text).value.toList = pieces.flatMap (Piece.inScript names) := by
  have free : ¬ HasReference (translate names text).value :=
    (translate_wholly_iff plain).mpr foreign text
  have cut := cut_variablePieces text.toList
  exact ⟨free, translate_eq_self free, variablePieces text.toList, cut.flatMap_written,
    fun _ _ _ => cut.occurrence_iff, toList_translate text⟩

/-- A text in which references stand in what looks like the beginning of others. -/
def entangled : String := "$($(outdir)$(no$(X)t) $$(PlatformName)) $5 (approx) $("

theorem translate_in_place_entangled :
    let names : ProjectNames := ⟨"hello", "hello.vcproj"⟩
    (∀ c ∈ names.file.toList, c ∉ ['$', '(', ')']) ∧
    (∃ c ∈ names.file.toList, Text.isIdentifierRest c = false) ∧
    (¬ HasReference (translate names entangled).value ∧
      (translate names (translate names entangled).value).value =
        (translate names entangled).value ∧
      ∃ pieces : List Piece, pieces.flatMap Piece.written = entangled.toList ∧
        (∀ before name after,
          IsVariableName name ∧ entangled.toList = before ++ (referenceTo name ++ after) ↔
            ∃ front back, pieces = front ++ .variable name :: back ∧
              front.flatMap Piece.written = before ∧ back.flatMap Piece.written = after) ∧
        (translate names entangled).value.toList = pieces.flatMap (Piece.inScript names)) ∧
    (translate names entangled).value =
      "$($\x7bCMAKE_CURRENT_BINARY_DIR\x7d/$\x7bCMAKE_CFG_INTDIR\x7d$(no$ENV\x7bX\x7dt) " ++
        "$$\x7bV2C_BUILD_PLATFORM\x7d) $5 (approx) $(" := by
  intro names
  have plain : ∀ c ∈ names.file.toList, c ∉ ['$', '(', ')'] := by simp [names]
  have foreign : ∃ c ∈ names.file.toList, Text.isIdentifierRest c = false :=
    ⟨'.', by decide, by decide⟩
  exact ⟨plain, foreign, translate_in_place names plain foreign entangled, by decide +kernel⟩

end Replacing

end ProjectScribe.Script
