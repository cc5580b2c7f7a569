import ProjectScribe.Mapping.Line
import ProjectScribe.Proofs.Text.Blank
import ProjectScribe.Proofs.Text.Pieces

/-!
# Lines that are read as they are written

What a line states is always of one form: its key is trimmed, is no comment and has no colon but
that of a drive letter, and the names and replacements of its segments are trimmed and free of the
characters that part them. A mapping of this form is read back from its text, with one exception:
where the key is a letter and the first segment begins with a slash, the two are read as a path.
-/
namespace ProjectScribe.Mapping

open Text (EndsOutside cutAt isBlank pieces trim)

variable {line : Line} {segment : Segment} {text before after : List Char}

/-- A slash or a backslash, which makes a drive of the letter and the colon before it. -/
def IsSlash (c : Char) : Prop := c = '/' ∨ c = '\\'

theorem IsSlash.isBlank_eq_false {c : Char} (slashed : IsSlash c) : isBlank c = false := by
  rcases slashed with rfl | rfl <;> rfl

theorem IsSlash.ne_bar {c : Char} (slashed : IsSlash c) : c ≠ '|' := by
  rcases slashed with rfl | rfl <;> decide

theorem isBlank_of_isAlpha {c : Char} (letter : c.isAlpha = true) : isBlank c = false := by
  have range : 65 ≤ c.toNat ∧ c.toNat ≤ 90 ∨ 97 ≤ c.toNat ∧ c.toNat ≤ 122 := by
    rcases Bool.or_eq_true_iff.mp letter with upper | lower
    · exact .inl (of_decide_eq_true upper)
    · obtain ⟨least, most⟩ := Bool.and_eq_true_iff.mp lower
      exact .inr ⟨of_decide_eq_true least, of_decide_eq_true most⟩
  simp only [isBlank, Bool.or_eq_false_iff, Bool.and_eq_false_iff, decide_eq_false_iff_not,
    beq_eq_false_iff_ne]
  omega

/-- A name or a replacement that can stand in a segment. -/
structure Segment.WellFormed (segment : Segment) : Prop where
  platformTrimmed : trim segment.platform.toList = segment.platform.toList
  platformPlain : '|' ∉ segment.platform.toList ∧ '=' ∉ segment.platform.toList
  replacementTrimmed : ∀ replacement ∈ segment.replacement,
    trim replacement.toList = replacement.toList
  replacementPlain : ∀ replacement ∈ segment.replacement, '|' ∉ replacement.toList

/-- Every colon of a key is that of a drive letter. -/
def OnlyDriveColon (key : List Char) : Prop :=
  ∀ front back, key = front ++ ':' :: back →
    ∃ drive slash rest, front = [drive] ∧ drive.isAlpha = true ∧ back = slash :: rest ∧
      IsSlash slash

/-- The form of what a line states. -/
structure Line.WellFormed (line : Line) : Prop where
  filled : line.key ≠ ""
  trimmed : trim line.key.toList = line.key.toList
  noComment : line.key.toList.head? ≠ some '#'
  colons : OnlyDriveColon line.key.toList
  segments : line.segments ≠ []
  each : ∀ segment ∈ line.segments, segment.WellFormed

/-- The key is a letter and the first segment begins with a slash: together with the colon between
them they look like the beginning of a path. -/
def Line.LooksLikeDrive (line : Line) : Prop :=
  ∃ drive first others slash rest, line.key.toList = [drive] ∧ drive.isAlpha = true ∧
    line.segments = first :: others ∧ first.text.toList = slash :: rest ∧ IsSlash slash

section Segments

theorem Segment.toList_text (segment : Segment) : segment.text.toList =
    match segment.replacement with
    | none => segment.platform.toList
    | some replacement => segment.platform.toList ++ '=' :: replacement.toList := by
  obtain ⟨platform, replacement⟩ := segment
  cases replacement <;> simp [Segment.text]

theorem Segment.WellFormed.endsOutside (formed : segment.WellFormed) :
    EndsOutside isBlank segment.text.toList := by
  have platformEnds := Text.strip_eq_self_iff.mp formed.platformTrimmed
  rw [Segment.toList_text]
  split
  · exact platformEnds
  · next replacement found =>
    exact platformEnds.append_cons rfl
      (Text.strip_eq_self_iff.mp (formed.replacementTrimmed replacement found))

/-- No bar stands in a well-formed segment. -/
theorem Segment.WellFormed.plain (formed : segment.WellFormed) : '|' ∉ segment.text.toList := by
  rw [Segment.toList_text]
  split
  · exact formed.platformPlain.1
  · next replacement found =>
    have plain := formed.replacementPlain replacement found
    simp [formed.platformPlain.1, plain]

/-- A well-formed segment is read as it is written. -/
theorem Segment.parse_text (formed : segment.WellFormed) :
    Segment.parse segment.text.toList = segment := by
  have bare : trim segment.text.toList = segment.text.toList := formed.endsOutside.strip_eq
  obtain ⟨platform, replacement⟩ := segment
  rw [Segment.parse, bare, Segment.toList_text]
  cases replacement with
  | none =>
    rw [Text.cutAt_eq_none_iff.mpr formed.platformPlain.2]
    simp only [String.ofList_toList]
  | some value =>
    rw [Text.cutAt_append formed.platformPlain.2]
    simp only [formed.platformTrimmed, formed.replacementTrimmed value rfl, String.ofList_toList]

/-- What is read of a piece between bars is well-formed. -/
theorem Segment.wellFormed_parse (plain : '|' ∉ text) : (Segment.parse text).WellFormed := by
  have plainTrimmed : '|' ∉ trim text := mt (Text.mem_strip_iff rfl).mp plain
  rw [Segment.parse]
  split
  · next platform replacement cut =>
    have whole := Text.eq_append_of_cutAt cut
    rw [whole, List.mem_append, List.mem_cons, not_or, not_or] at plainTrimmed
    constructor
    · rw [String.toList_ofList]
      exact Text.strip_strip platform
    · rw [String.toList_ofList]
      exact ⟨mt (Text.mem_strip_iff rfl).mp plainTrimmed.1,
        mt (Text.mem_strip_iff rfl).mp (Text.not_mem_of_cutAt cut)⟩
    · rintro _ ⟨⟩
      rw [String.toList_ofList]
      exact Text.strip_strip replacement
    · rintro _ ⟨⟩
      rw [String.toList_ofList]
      exact mt (Text.mem_strip_iff rfl).mp plainTrimmed.2.2
  · next uncut =>
    constructor
    · rw [String.toList_ofList]
      exact Text.strip_strip text
    · rw [String.toList_ofList]
      exact ⟨plainTrimmed, Text.cutAt_eq_none_iff.mp uncut⟩
    · rintro _ ⟨⟩
    · rintro _ ⟨⟩

end Segments

section Keys

/-- A text begins with a drive: a letter, a colon and a slash. -/
def BeginsWithDrive (text : List Char) : Prop :=
  ∃ drive slash rest, text = drive :: ':' :: slash :: rest ∧ drive.isAlpha = true ∧ IsSlash slash

theorem trim_eq_dropEndWhile (begins : ∀ c ∈ text.head?, isBlank c = false) :
    trim text = Text.dropEndWhile isBlank text := by
  rw [trim, Text.strip, Text.dropWhile_eq_self isBlank begins]

/-- A drive stays in front when what it begins is trimmed. -/
theorem trim_of_drive {drive slash : Char} (letter : drive.isAlpha = true)
    (slashed : IsSlash slash) (rest : List Char) :
    trim ([drive, ':'] ++ slash :: rest) =
      [drive, ':'] ++ slash :: Text.dropEndWhile isBlank rest := by
  refine Text.strip_append_cons isBlank [drive, ':'] rest ?_ slashed.isBlank_eq_false
  rintro _ ⟨⟩
  exact isBlank_of_isAlpha letter

theorem cutKey_of_drive {drive slash : Char} (letter : drive.isAlpha = true)
    (slashed : IsSlash slash) (rest : List Char) :
    cutKey (drive :: ':' :: slash :: rest) =
      (cutAt ':' (slash :: rest)).map fun (before, after) => (drive :: ':' :: before, after) := by
  have slashes : (slash == '/' || slash == '\\') = true := by
    simpa [IsSlash] using slashed
  rw [cutKey, if_pos (by rw [letter, slashes]; rfl)]

theorem cutKey_of_not_drive (other : ¬ BeginsWithDrive text) :
    cutKey text = cutAt ':' text := by
  unfold cutKey
  split
  · next drive slash rest =>
    rw [if_neg]
    intro both
    rw [Bool.and_eq_true] at both
    exact other ⟨drive, slash, rest, rfl, both.1, by simpa [IsSlash] using both.2⟩
  · rfl

/-- A key without colons but that of a drive letter ends at the colon behind it, unless the key is
a letter and a slash follows the colon. -/
theorem cutKey_append {key body : List Char} (colons : OnlyDriveColon key)
    (apart : ¬ ∃ drive slash rest, key = [drive] ∧ drive.isAlpha = true ∧ body = slash :: rest ∧
      IsSlash slash) : cutKey (key ++ ':' :: body) = some (key, body) := by
  by_cases colon : ':' ∈ key
  · obtain ⟨front, back, rfl⟩ := List.append_of_mem colon
    obtain ⟨drive, slash, rest, rfl, letter, rfl, slashed⟩ := colons front back rfl
    have further : ':' ∉ slash :: rest := by
      intro again
      obtain ⟨more, behind, parts⟩ := List.append_of_mem again
      obtain ⟨_, _, _, single, -⟩ := colons (drive :: ':' :: more) behind (by simp [parts])
      simp at single
    change cutKey (drive :: ':' :: slash :: (rest ++ ':' :: body)) = _
    rw [cutKey_of_drive letter slashed, ← List.cons_append, Text.cutAt_append further]
    rfl
  · rw [cutKey_of_not_drive, Text.cutAt_append colon]
    rintro ⟨drive, slash, rest, whole, letter, slashed⟩
    match key, whole with
    | [], whole =>
      cases whole
      simp at letter
    | [alone], whole =>
      cases whole
      exact apart ⟨drive, slash, rest, rfl, letter, rfl, slashed⟩
    | first :: second :: others, whole =>
      have same : second = ':' := (List.cons.inj (List.cons.inj whole).2).1
      exact colon (by simp [same])

/-- The key that a colon ends has no other colons but that of a drive letter. -/
theorem eq_append_of_cutKey (cut : cutKey text = some (before, after)) :
    text = before ++ ':' :: after ∧ OnlyDriveColon before := by
  by_cases begins : BeginsWithDrive text
  · obtain ⟨drive, slash, rest, rfl, letter, slashed⟩ := begins
    rw [cutKey_of_drive letter slashed] at cut
    obtain ⟨⟨front, back⟩, found, same⟩ := Option.map_eq_some_iff.mp cut
    cases same
    have whole := Text.eq_append_of_cutAt found
    refine ⟨by rw [whole]; rfl, fun left right parts => ?_⟩
    match left, parts with
    | [], parts =>
      cases parts
      simp at letter
    | [alone], parts =>
      cases parts
      cases front with
      | nil =>
        cases whole
        simp [IsSlash] at slashed
      | cons first others =>
        cases whole
        exact ⟨drive, slash, others, rfl, letter, rfl, slashed⟩
    | first :: second :: others, parts =>
      have behind : front = others ++ ':' :: right := (List.cons.inj (List.cons.inj parts).2).2
      exact absurd (by simp [behind]) (Text.not_mem_of_cutAt found)
  · rw [cutKey_of_not_drive begins] at cut
    refine ⟨Text.eq_append_of_cutAt cut, fun left right parts => ?_⟩
    exact absurd (by simp [parts]) (Text.not_mem_of_cutAt cut)

/-- A key keeps the form when blanks behind it are dropped. -/
theorem OnlyDriveColon.dropEndWhile {key : List Char} (colons : OnlyDriveColon key)
    (begins : ∀ c ∈ key.head?, isBlank c = false) :
    OnlyDriveColon (Text.dropEndWhile isBlank key) := by
  intro front back parts
  obtain ⟨gap, longer⟩ : Text.dropEndWhile isBlank key <+: key :=
    List.rdropWhile_prefix isBlank key
  rw [parts, List.append_assoc, List.cons_append] at longer
  obtain ⟨drive, slash, rest, rfl, letter, behind, slashed⟩ := colons front _ longer.symm
  have kept : trim key = [drive, ':'] ++ slash :: Text.dropEndWhile isBlank rest := by
    rw [← longer, behind]
    exact trim_of_drive letter slashed rest
  rw [← trim_eq_dropEndWhile begins, kept] at parts
  cases parts
  exact ⟨drive, slash, _, rfl, letter, rfl, slashed⟩

end Keys

section Lines

theorem Line.toList_text (line : Line) : line.text.toList =
    line.key.toList ++ ':' :: ['|'].intercalate (line.segments.map (·.text.toList)) := by
  rw [Line.text, String.toList_append, String.toList_append, String.toList_intercalate,
    List.map_map, List.append_assoc]
  rfl

/-- What a line of text states, part by part. -/
theorem Line.parse?_eq_some_iff : Line.parse? text = some line ↔
    (trim text).head? ≠ some '#' ∧ ∃ before after, cutKey (trim text) = some (before, after) ∧
      trim before ≠ [] ∧
      line = ⟨String.ofList (trim before), (pieces (· == '|') after).map Segment.parse⟩ := by
  rw [Line.parse?]
  dsimp only
  cases begins : (trim text).head? with
  | none =>
    have nothing : trim text = [] := List.head?_eq_none_iff.mp begins
    simp [nothing, cutKey, cutAt]
  | some c =>
    by_cases comment : c = '#'
    · simp [comment]
    · rw [if_neg (by simp [comment])]
      cases cut : cutKey (trim text) with
      | none => simp
      | some parts =>
        obtain ⟨before, after⟩ := parts
        dsimp only
        by_cases empty : trim before = []
        · rw [if_pos (by simp [empty])]
          simp [empty]
        · rw [if_neg (by simpa using empty), Option.some_inj]
          constructor
          · rintro rfl
            exact ⟨by simpa using comment, before, after, rfl, empty, rfl⟩
          · rintro ⟨-, _, _, ⟨⟩, -, rfl⟩
            rfl

/-- Segments that are joined begin with a bar or as the first of them does. -/
theorem head?_of_joined {first : List Char} {others : List (List Char)} {c : Char}
    (begins : (['|'].intercalate (first :: others)).head? = some c) (other : c ≠ '|') :
    first.head? = some c := by
  cases others with
  | nil => simpa using begins
  | cons second others =>
    rw [List.intercalate_cons_cons, List.append_assoc, List.head?_append] at begins
    cases first with
    | nil => exact absurd (Option.some.inj begins).symm other
    | cons head rest => exact begins

/-- A mapping of the form that lines state is read back, unless it looks like a path. -/
theorem Line.parse?_text (formed : line.WellFormed) (apart : ¬ line.LooksLikeDrive) :
    Line.parse? line.text.toList = some line := by
  have keyEnds := Text.strip_eq_self_iff.mp formed.trimmed
  have keyFilled : line.key.toList ≠ [] := by simpa using formed.filled
  have bodyEnds : EndsOutside isBlank (['|'].intercalate (line.segments.map (·.text.toList))) := by
    refine EndsOutside.intercalate_kept rfl _ fun text listed => ?_
    obtain ⟨segment, among, rfl⟩ := List.mem_map.mp listed
    exact (formed.each segment among).endsOutside
  have bare : trim line.text.toList = line.text.toList := by
    rw [Line.toList_text]
    exact (keyEnds.append_cons rfl bodyEnds).strip_eq
  have segmentsRead : (pieces (· == '|') (['|'].intercalate
      (line.segments.map (·.text.toList)))).map Segment.parse = line.segments := by
    rw [Text.pieces_intercalate _ '|' rfl _ (by simpa using formed.segments)]
    · rw [List.map_map]
      refine (List.map_congr_left fun segment among => ?_).trans (List.map_id _)
      exact Segment.parse_text (formed.each segment among)
    · intro text listed c within
      obtain ⟨segment, among, rfl⟩ := List.mem_map.mp listed
      simpa using ne_of_mem_of_not_mem within (formed.each segment among).plain
  rw [Line.parse?_eq_some_iff, bare, Line.toList_text, List.head?_append_of_ne_nil _ keyFilled]
  refine ⟨formed.noComment, _, _, cutKey_append formed.colons ?_, ?_, ?_⟩
  · rintro ⟨drive, slash, rest, alone, letter, begins, slashed⟩
    obtain ⟨first, others, parts⟩ := List.exists_cons_of_ne_nil formed.segments
    rw [parts, List.map_cons] at begins
    have headed := head?_of_joined (congrArg List.head? begins) slashed.ne_bar
    obtain ⟨more, written⟩ := List.head?_eq_some_iff.mp headed
    exact apart ⟨drive, first, others, slash, more, alone, letter, parts, written, slashed⟩
  · rwa [formed.trimmed]
  · rw [formed.trimmed, segmentsRead, String.ofList_toList]

/-- What a line states has the form. -/
theorem Line.wellFormed_of_parse? (stated : Line.parse? text = some line) : line.WellFormed := by
  obtain ⟨noComment, before, after, cut, filled, rfl⟩ := Line.parse?_eq_some_iff.mp stated
  obtain ⟨whole, colons⟩ := eq_append_of_cutKey cut
  have nonempty : before ≠ [] := by
    rintro rfl
    exact filled rfl
  have headed : (trim text).head? = before.head? := by
    rw [whole, List.head?_append_of_ne_nil _ nonempty]
  have begins : ∀ c ∈ before.head?, isBlank c = false := by
    rw [← headed]
    exact (Text.endsOutside_strip isBlank text).first
  have trimmed : trim before = Text.dropEndWhile isBlank before := trim_eq_dropEndWhile begins
  constructor
  · simpa using filled
  · rw [String.toList_ofList]
    exact Text.strip_strip before
  · rw [String.toList_ofList, trimmed]
    intro comment
    rw [headed, Option.mem_def.mp (Text.head?_dropEndWhile isBlank comment)] at noComment
    exact noComment rfl
  · rw [String.toList_ofList, trimmed]
    exact colons.dropEndWhile begins
  · simpa using Text.pieces_ne_nil _ after
  · intro segment listed
    obtain ⟨piece, among, rfl⟩ := List.mem_map.mp listed
    refine Segment.wellFormed_parse fun bar => ?_
    simpa using Text.plain_of_mem_pieces _ among '|' bar

/-- A mapping that looks like a path is not read back. -/
theorem Line.parse?_text_of_looksLikeDrive (looks : line.LooksLikeDrive) :
    Line.parse? line.text.toList ≠ some line := by
  obtain ⟨drive, first, others, slash, rest, alone, letter, parts, written, slashed⟩ := looks
  intro stated
  obtain ⟨-, before, after, cut, -, same⟩ := Line.parse?_eq_some_iff.mp stated
  have keyed : trim before = [drive] := by
    rw [← alone, same, String.toList_ofList]
  obtain ⟨more, whole⟩ : ∃ more, line.text.toList = [drive, ':'] ++ slash :: more := by
    rw [Line.toList_text, alone, parts, List.map_cons, written]
    cases others with
    | nil => exact ⟨rest, by simp⟩
    | cons second others =>
      rw [List.map_cons, List.intercalate_cons_cons]
      exact ⟨_, rfl⟩
  have kept : trim line.text.toList = [drive, ':'] ++ slash :: Text.dropEndWhile isBlank more := by
    rw [whole]
    exact trim_of_drive letter slashed more
  rw [kept] at cut
  change cutKey (drive :: ':' :: slash :: _) = _ at cut
  rw [cutKey_of_drive letter slashed] at cut
  obtain ⟨⟨front, back⟩, -, both⟩ := Option.map_eq_some_iff.mp cut
  cases both
  have colon : ':' ∈ trim (drive :: ':' :: front) := (Text.mem_strip_iff rfl).mpr (by simp)
  rw [keyed, List.mem_singleton] at colon
  subst colon
  simp at letter

/-- A mapping is read back from its text exactly if its key is trimmed and not empty, begins no
comment and has no colon but that of a drive letter, it has segments, and their names and
replacements are trimmed and free of bars, the names of equals signs too; and if it is not that the
key is a letter and the first segment begins with a slash. -/
theorem Line.readBack_iff (line : Line) :
    Line.parse? line.text.toList = some line ↔ line.WellFormed ∧ ¬ line.LooksLikeDrive := by
  constructor
  · intro stated
    exact ⟨Line.wellFormed_of_parse? stated, fun looks =>
      Line.parse?_text_of_looksLikeDrive looks stated⟩
  · rintro ⟨formed, apart⟩
    exact Line.parse?_text formed apart

example : Line.parse? (Line.text ⟨"C", [⟨"/inc", none⟩]⟩).toList = none := by decide

end Lines

end ProjectScribe.Mapping
