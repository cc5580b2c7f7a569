import ProjectScribe.Mapping.Table
import ProjectScribe.Proofs.Text.Blank

/-!
# Which entry of a continued table serves a token

A table of a project is continued by that of the whole source tree. Its own entries come before
further ones, but only among entries that are found in the same way: a further entry with the key
of a token comes before an own one whose pattern fits. The text of a continued table is the text of
the one, a line end, and the text of the other.
-/
namespace ProjectScribe.Mapping.Table

open Text (lines linesFrom trim withoutReturn)

variable {first second : Table} {token : String} {entry : Entry} {entries : List Entry}

/-- An entry is the first of a list to have a property. -/
def Leads (property : Entry → Bool) (entries : List Entry) (entry : Entry) : Prop :=
  ∃ before after, entries = before ++ entry :: after ∧ property entry = true ∧
    ∀ other ∈ before, property other = false

/-- The entry that serves a token in a table continued by another, by the ways in which there can
be one. Each way is open only if the ways above it lead to no entry. -/
inductive Serves (first second : Table) (token : String) : Option Entry → Prop
  | ownKey (entry : Entry) (leads : Leads (·.line.key = token) first.entries entry) :
      Serves first second token (some entry)
  | furtherKey (entry : Entry) (unkeyed : ∀ own ∈ first.entries, own.line.key ≠ token)
      (leads : Leads (·.line.key = token) second.entries entry) :
      Serves first second token (some entry)
  | ownPattern (entry : Entry) (unkeyed : ∀ own ∈ first.entries, own.line.key ≠ token)
      (unkeyedFurther : ∀ further ∈ second.entries, further.line.key ≠ token)
      (leads : Leads (·.fits token) first.entries entry) :
      Serves first second token (some entry)
  | furtherPattern (entry : Entry) (unkeyed : ∀ own ∈ first.entries, own.line.key ≠ token)
      (unkeyedFurther : ∀ further ∈ second.entries, further.line.key ≠ token)
      (unfit : ∀ own ∈ first.entries, own.fits token = false)
      (leads : Leads (·.fits token) second.entries entry) :
      Serves first second token (some entry)
  | nothing (unkeyed : ∀ own ∈ first.entries, own.line.key ≠ token)
      (unkeyedFurther : ∀ further ∈ second.entries, further.line.key ≠ token)
      (unfit : ∀ own ∈ first.entries, own.fits token = false)
      (unfitFurther : ∀ further ∈ second.entries, further.fits token = false) :
      Serves first second token none

/-- What stands for a token that an entry serves, and for one that none serves. -/
def placementsBy (token : String) : Option Entry → List (String × String)
  | none => [(everyPlatform, token)]
  | some entry => entry.line.segments.filterMap (placeSegment token)

theorem placements_eq (table : Table) (token : String) :
    table.placements token = placementsBy token (table.lookup token) := by
  rw [placements]
  cases table.lookup token <;> rfl

theorem resolveInto_eq (table : Table) (token : String) (gathered : PlatformTokens) :
    table.resolveInto token gathered =
      gathered.pushAll (placementsBy token (table.lookup token)) := by
  rw [resolveInto, placements_eq]

section Lookup

theorem find?_eq_some_iff {property : Entry → Bool} :
    entries.find? property = some entry ↔ Leads property entries entry := by
  simp only [List.find?_eq_some_iff_append, Leads, Bool.not_eq_true']
  constructor
  · rintro ⟨has, before, after, whole, fails⟩
    exact ⟨before, after, whole, has, fails⟩
  · rintro ⟨before, after, whole, has, fails⟩
    exact ⟨has, before, after, whole, fails⟩

theorem find?_key_eq_none_iff :
    entries.find? (·.line.key = token) = none ↔ ∀ other ∈ entries, other.line.key ≠ token := by
  simp

theorem find?_fits_eq_none_iff :
    entries.find? (·.fits token) = none ↔ ∀ other ∈ entries, other.fits token = false := by
  simp

/-- Keys are sought in both tables before patterns are. -/
theorem lookup_append (first second : Table) (token : String) :
    (first.append second).lookup token =
      ((first.entries.find? (·.line.key = token)).or
        (second.entries.find? (·.line.key = token))).or
      ((first.entries.find? (·.fits token)).or (second.entries.find? (·.fits token))) := by
  rw [lookup, append, List.find?_append, List.find?_append]

/-- Whatever serves a token is what is found for it. -/
theorem Serves.lookup_eq {served : Option Entry} (serves : Serves first second token served) :
    (first.append second).lookup token = served := by
  rw [lookup_append]
  cases serves with
  | ownKey entry leads => rw [find?_eq_some_iff.mpr leads, Option.some_or, Option.some_or]
  | furtherKey entry unkeyed leads =>
    rw [find?_key_eq_none_iff.mpr unkeyed, find?_eq_some_iff.mpr leads, Option.none_or,
      Option.some_or]
  | ownPattern entry unkeyed unkeyedFurther leads =>
    rw [find?_key_eq_none_iff.mpr unkeyed, find?_key_eq_none_iff.mpr unkeyedFurther,
      find?_eq_some_iff.mpr leads, Option.none_or, Option.none_or, Option.some_or]
  | furtherPattern entry unkeyed unkeyedFurther unfit leads =>
    rw [find?_key_eq_none_iff.mpr unkeyed, find?_key_eq_none_iff.mpr unkeyedFurther,
      find?_fits_eq_none_iff.mpr unfit, find?_eq_some_iff.mpr leads, Option.none_or,
      Option.none_or, Option.none_or]
  | nothing unkeyed unkeyedFurther unfit unfitFurther =>
    rw [find?_key_eq_none_iff.mpr unkeyed, find?_key_eq_none_iff.mpr unkeyedFurther,
      find?_fits_eq_none_iff.mpr unfit, find?_fits_eq_none_iff.mpr unfitFurther, Option.none_or,
      Option.none_or]

/-- One of the ways is always open. -/
theorem exists_serves (first second : Table) (token : String) :
    ∃ served, Serves first second token served := by
  cases ownKeyed : first.entries.find? (·.line.key = token) with
  | some entry => exact ⟨_, .ownKey entry (find?_eq_some_iff.mp ownKeyed)⟩
  | none =>
    have unkeyed := find?_key_eq_none_iff.mp ownKeyed
    cases keyed : second.entries.find? (·.line.key = token) with
    | some entry => exact ⟨_, .furtherKey entry unkeyed (find?_eq_some_iff.mp keyed)⟩
    | none =>
      have unkeyedFurther := find?_key_eq_none_iff.mp keyed
      cases ownFits : first.entries.find? (·.fits token) with
      | some entry =>
        exact ⟨_, .ownPattern entry unkeyed unkeyedFurther (find?_eq_some_iff.mp ownFits)⟩
      | none =>
        have unfit := find?_fits_eq_none_iff.mp ownFits
        cases fits : second.entries.find? (·.fits token) with
        | some entry =>
          exact ⟨_, .furtherPattern entry unkeyed unkeyedFurther unfit
            (find?_eq_some_iff.mp fits)⟩
        | none =>
          exact ⟨_, .nothing unkeyed unkeyedFurther unfit (find?_fits_eq_none_iff.mp fits)⟩

theorem lookup_append_iff {served : Option Entry} :
    (first.append second).lookup token = served ↔ Serves first second token served := by
  constructor
  · rintro rfl
    obtain ⟨served, serves⟩ := exists_serves first second token
    rwa [serves.lookup_eq]
  · exact Serves.lookup_eq

/-- A further table does not show where the own one has the key of a token. -/
theorem lookup_append_of_keyed (keyed : ∃ own ∈ first.entries, own.line.key = token) :
    (first.append second).lookup token = first.lookup token := by
  rw [lookup_append, lookup]
  cases found : first.entries.find? (·.line.key = token) with
  | some entry => rw [Option.some_or, Option.some_or, Option.some_or]
  | none =>
    obtain ⟨own, listed, same⟩ := keyed
    exact absurd same (find?_key_eq_none_iff.mp found own listed)

/-- A further table without the key of a token does not show where an own pattern fits. -/
theorem lookup_append_of_fits (unkeyed : ∀ further ∈ second.entries, further.line.key ≠ token)
    (fits : ∃ own ∈ first.entries, own.fits token = true) :
    (first.append second).lookup token = first.lookup token := by
  rw [lookup_append, lookup, find?_key_eq_none_iff.mpr unkeyed, Option.or_none]
  cases found : first.entries.find? (·.fits token) with
  | some entry => rw [Option.some_or]
  | none =>
    obtain ⟨own, listed, suits⟩ := fits
    exact absurd suits (by simp [find?_fits_eq_none_iff.mp found own listed])

/-- Where a further table shows, the own one does not have the key of the token, and the further one
has it or no own pattern fits. -/
theorem of_lookup_append_ne
    (shows : (first.append second).lookup token ≠ first.lookup token) :
    (∀ own ∈ first.entries, own.line.key ≠ token) ∧
      ((∃ further ∈ second.entries, further.line.key = token) ∨
        ∀ own ∈ first.entries, own.fits token = false) := by
  refine ⟨fun own listed same => shows (lookup_append_of_keyed ⟨own, listed, same⟩), ?_⟩
  by_contra neither
  push Not at neither
  obtain ⟨unkeyed, own, listed, fits⟩ := neither
  exact shows (lookup_append_of_fits unkeyed ⟨own, listed, (Bool.not_eq_false _).mp fits⟩)

/-- A further table without an entry for a token does not show at all. -/
theorem lookup_append_of_unknown (unkeyed : ∀ further ∈ second.entries, further.line.key ≠ token)
    (unfit : ∀ further ∈ second.entries, further.fits token = false) :
    (first.append second).lookup token = first.lookup token := by
  rw [lookup_append, lookup, find?_key_eq_none_iff.mpr unkeyed, find?_fits_eq_none_iff.mpr unfit,
    Option.or_none, Option.or_none]

/-- Entries that a table has already never show behind it. -/
theorem lookup_append_of_subset (known : ∀ further ∈ second.entries, further ∈ first.entries) :
    (first.append second).lookup token = first.lookup token := by
  by_cases keyed : ∃ own ∈ first.entries, own.line.key = token
  · exact lookup_append_of_keyed keyed
  · have unkeyed : ∀ further ∈ second.entries, further.line.key ≠ token :=
      fun further listed same => keyed ⟨further, known further listed, same⟩
    by_cases fits : ∃ own ∈ first.entries, own.fits token = true
    · exact lookup_append_of_fits unkeyed fits
    · refine lookup_append_of_unknown unkeyed fun further listed => ?_
      rw [Bool.eq_false_iff]
      exact fun suits => fits ⟨further, known further listed, suits⟩

end Lookup

section Text

/-- A carriage return before a line end does not change what a line states. -/
theorem parse?_withoutReturn (line : List Char) :
    Line.parse? (withoutReturn line) = Line.parse? line := by
  have trimmed : trim (withoutReturn line) = trim line := by
    unfold withoutReturn
    split
    · next rest reversed =>
      have whole : line = rest.reverse ++ ['\r'] := by
        rw [← List.reverse_reverse line, reversed, List.reverse_cons]
      rw [whole, trim, trim, Text.strip_concat _ (by decide)]
    · rfl
  simp only [Line.parse?, trimmed]

/-- The mappings that the lines of two texts state are stated by their lines together, whatever
line the end of the first text leaves under way. -/
theorem parse?_linesFrom_append (current own further : List Char) :
    (linesFrom current (own ++ '\n' :: further)).filterMap Line.parse? =
      (linesFrom current own).filterMap Line.parse? ++
        (lines further).filterMap Line.parse? := by
  induction own generalizing current with
  | nil =>
    have ends : linesFrom current ('\n' :: further) =
        withoutReturn current.reverse :: lines further := by
      rw [linesFrom, if_pos rfl, lines]
    rw [List.nil_append, ends, List.filterMap_cons, parse?_withoutReturn, linesFrom]
    by_cases empty : current = []
    · rw [empty]
      rfl
    · rw [if_neg (by simpa using empty), List.filterMap_cons, List.filterMap_nil]
      cases Line.parse? current.reverse <;> rfl
  | cons c own inductionHypothesis =>
    rw [List.cons_append, linesFrom, linesFrom]
    split
    · rw [List.filterMap_cons, List.filterMap_cons, inductionHypothesis]
      split <;> rfl
    · exact inductionHypothesis (c :: current)

/-- A table continued by another is stated by their texts with a line end between them. -/
theorem parse_append (own further : String) :
    parse (own ++ "\n" ++ further) = (parse own).append (parse further) := by
  have parts : (own ++ "\n" ++ further).toList = own.toList ++ '\n' :: further.toList := by simp
  rw [parse, parts, lines, parse?_linesFrom_append, List.map_append]
  rfl

end Text

/-- In a table continued by another exactly one of the ways leads to what serves a token: the first
own entry with the key, the first further one, the first own entry whose pattern fits, the first
further one, or nothing, and then the token stays as it is on every platform. So the further table
shows only if the own one does not have the key and either the further one has it or no own pattern
fits; and never if the own one has all of its entries. Texts with a line end between them state the
one table continued by the other. -/
theorem resolve_append (first second : Table) (token : String) :
    (∃ served, (∀ other, Serves first second token other ↔ other = served) ∧
      (∀ gathered, (first.append second).resolveInto token gathered =
        gathered.pushAll (placementsBy token served)) ∧
      (served = none → (first.append second).resolve token = ⟨[("ALL", [token])]⟩)) ∧
    ((∃ gathered, (first.append second).resolveInto token gathered ≠
        first.resolveInto token gathered) →
      (∀ own ∈ first.entries, own.line.key ≠ token) ∧
        ((∃ further ∈ second.entries, further.line.key = token) ∨
          ∀ own ∈ first.entries, own.fits token = false)) ∧
    ((∀ further ∈ second.entries, further ∈ first.entries) →
      ∀ gathered, (first.append second).resolveInto token gathered =
        first.resolveInto token gathered) ∧
    ∀ own further : String,
      parse (own ++ "\n" ++ further) = (parse own).append (parse further) := by
  refine ⟨⟨(first.append second).lookup token, fun other => ?_, fun gathered => ?_, ?_⟩, ?_, ?_,
    parse_append⟩
  · rw [← lookup_append_iff, eq_comm]
  · exact resolveInto_eq _ token gathered
  · intro unserved
    rw [resolve, resolveInto_eq, unserved]
    rfl
  · rintro ⟨gathered, differs⟩
    rw [resolveInto_eq, resolveInto_eq] at differs
    refine of_lookup_append_ne fun same => ?_
    exact differs (by rw [same])
  · intro known gathered
    rw [resolveInto_eq, resolveInto_eq, lookup_append_of_subset known]

example : (((parse "lib.*:=own").append (parse "libx:=further")).resolve "libx").toList =
    [("ALL", ["further"])] := by cbv

end ProjectScribe.Mapping.Table
