import Mathlib.Logic.Relation
import ProjectScribe.Proofs.Reading.FilterItems
import ProjectScribe.Proofs.Text.Pieces

/-!
# Spellings of paths to filters

A path to a filter can be spelled in many ways: its letters can be in either case, its separators
can be either sign, and there can be more of them beside others and at the ends. What these changes
leave is the key of the filter, and they leave nothing else: two paths have one key just if such
changes lead from one to the other.
-/
namespace ProjectScribe.Reading.ElementFormat

open Relation (EqvGen)

/-- The signs that part the names on a path. -/
def isSeparator (c : Char) : Bool := c == '\\' || c == '/'

/-- What stands between the separators of a text, wherever something does. -/
def segments (text : List Char) : List (List Char) :=
  (Text.pieces isSeparator text).filter (!·.isEmpty)

/-- What stands between the separators of a text, without case. -/
def segmentKey (text : List Char) : List (List Char) :=
  (segments text).map (·.map Text.lowerChar)

/-- A name that can stand on a path: it is not empty and has no separator in it. -/
structure IsName (name : String) : Prop where
  filled : name ≠ ""
  backslash : '\\' ∉ name.toList
  slash : '/' ∉ name.toList

/-- One change of a spelling: letters in another case, another sign for a separator, or one more
separator, beside another one or at an end. -/
inductive Respells : List Char → List Char → Prop where
  | letters {text other : List Char}
      (same : text.map Text.lowerChar = other.map Text.lowerChar) : Respells text other
  | sign (before after : List Char) {c d : Char} (separates : isSeparator c = true)
      (separatesToo : isSeparator d = true) : Respells (before ++ c :: after) (before ++ d :: after)
  | beside (before after : List Char) {c d : Char} (separates : isSeparator c = true)
      (separatesToo : isSeparator d = true) :
      Respells (before ++ c :: after) (before ++ c :: d :: after)
  | ahead (text : List Char) {c : Char} (separates : isSeparator c = true) :
      Respells text (c :: text)
  | behind (text : List Char) {c : Char} (separates : isSeparator c = true) :
      Respells text (text ++ [c])

/-- Two paths that are one but for the spelling. -/
def Respelled (path other : String) : Prop := EqvGen Respells path.toList other.toList

section Segments

/-- The signs that part names have no case. -/
theorem isSeparator_lowerChar (c : Char) : isSeparator (Text.lowerChar c) = isSeparator c := by
  have backslash := Text.lowerChar_eq_iff '\\' (by decide) c
  have slash := Text.lowerChar_eq_iff '/' (by decide) c
  rw [Bool.eq_iff_iff]
  simp only [isSeparator, Bool.or_eq_true, beq_iff_eq, backslash, slash]

/-- A text that is parted at a separator has the segments of both parts. -/
theorem segments_append {c : Char} (separates : isSeparator c = true) (before after : List Char) :
    segments (before ++ c :: after) = segments before ++ segments after := by
  rw [segments, Text.pieces_append_separator isSeparator before after separates,
    List.filter_append]
  rfl

/-- A separator in front of a text makes no segment. -/
theorem segments_cons {c : Char} (separates : isSeparator c = true) (text : List Char) :
    segments (c :: text) = segments text :=
  segments_append separates [] text

/-- A text without separators is one segment, if there is anything in it. -/
theorem segments_of_plain {text : List Char} (filled : text ≠ [])
    (plain : ∀ c ∈ text, isSeparator c = false) : segments text = [text] := by
  obtain ⟨c, rest, rfl⟩ := List.exists_cons_of_ne_nil filled
  rw [segments, Text.pieces_of_plain isSeparator _ plain]
  rfl

/-- The segments of a text in lower case are its own in lower case. -/
theorem segments_map_lowerChar (text : List Char) :
    segments (text.map Text.lowerChar) = segmentKey text := by
  have cut : Text.pieces isSeparator (text.map Text.lowerChar) =
      (Text.pieces isSeparator text).map (·.map Text.lowerChar) := by
    induction text with
    | nil => rfl
    | cons c rest inductionHypothesis =>
      rw [List.map_cons, Text.pieces, Text.pieces, inductionHypothesis, isSeparator_lowerChar]
      split
      · rfl
      · cases Text.pieces isSeparator rest <;> rfl
  rw [segments, cut, List.filter_map, segmentKey, segments]
  congr 1
  apply List.filter_congr
  intro piece _
  simp

/-- Keys of filters are equal where the segments agree up to case. -/
theorem filterKey_eq_iff (path other : String) :
    filterKey path = filterKey other ↔ segmentKey path.toList = segmentKey other.toList := by
  have key : ∀ path, filterKey path = (segmentKey path.toList).map String.ofList := by
    intro path
    rw [filterKey, segmentKey, List.map_map]
    change ((segments path.toList).map String.ofList).map Text.lower = _
    rw [List.map_map]
    apply List.map_congr_left
    intro segment _
    simp [Text.lower]
  rw [key, key]
  exact (List.map_injective_iff.mpr fun _ _ => String.ofList_inj.mp).eq_iff

end Segments

section Names

/-- The names on a path are names. -/
theorem isName_of_mem_filterNames {path name : String} (listed : name ∈ filterNames path) :
    IsName name := by
  obtain ⟨piece, cut, rfl⟩ := List.mem_map.mp listed
  obtain ⟨cut, filled⟩ := List.mem_filter.mp cut
  have plain := Text.plain_of_mem_pieces isSeparator cut
  refine ⟨?_, ?_, ?_⟩
  · rw [ne_eq, ← String.toList_inj, String.toList_ofList]
    simpa using filled
  · rw [String.toList_ofList]
    intro inside
    have separates := plain '\\' inside
    cases separates
  · rw [String.toList_ofList]
    intro inside
    have separates := plain '/' inside
    cases separates

/-- Names that are joined to a path are the names on it. -/
theorem filterNames_intercalate (names : List String) (proper : ∀ name ∈ names, IsName name) :
    filterNames ("\\".intercalate names) = names := by
  have cut : segments (['\\'].intercalate (names.map String.toList)) =
      names.map String.toList := by
    induction names with
    | nil => rfl
    | cons name rest inductionHypothesis =>
      have further := inductionHypothesis fun other listed =>
        proper other (List.mem_cons_of_mem name listed)
      obtain ⟨filled, backslash, slash⟩ := proper name List.mem_cons_self
      have alone : segments name.toList = [name.toList] := by
        refine segments_of_plain (fun empty => filled (String.toList_inj.mp empty)) ?_
        intro c inside
        rw [isSeparator, Bool.or_eq_false_iff, beq_eq_false_iff_ne, beq_eq_false_iff_ne]
        exact ⟨fun same => backslash (same ▸ inside), fun same => slash (same ▸ inside)⟩
      cases rest with
      | nil => simpa using alone
      | cons other others =>
        rw [List.map_cons] at further
        rw [List.map_cons, List.map_cons, List.intercalate_cons_cons, List.append_assoc,
          List.singleton_append, segments_append rfl, alone, further]
        rfl
  change (segments _).map String.ofList = names
  rw [String.toList_intercalate]
  change (segments (['\\'].intercalate _)).map String.ofList = names
  rw [cut, List.map_map]
  simp [Function.comp_def]

end Names

section Spellings

/-- A change of the spelling leaves the segments, up to case. -/
theorem Respells.segmentKey_eq {text other : List Char} (respells : Respells text other) :
    segmentKey text = segmentKey other := by
  cases respells with
  | letters same => rw [← segments_map_lowerChar, same, segments_map_lowerChar]
  | sign before after separates separatesToo =>
    rw [segmentKey, segmentKey, segments_append separates, segments_append separatesToo]
  | beside before after separates separatesToo =>
    rw [segmentKey, segmentKey, segments_append separates, segments_append separates,
      segments_cons separatesToo]
  | ahead text separates => rw [segmentKey, segmentKey, segments_cons separates]
  | behind text separates =>
    rw [segmentKey, segmentKey, segments_append separates]
    exact congrArg _ (List.append_nil _).symm

/-- What follows a separator can be respelled on its own. -/
theorem Respells.append {text other : List Char} (respells : Respells text other)
    (before : List Char) {c : Char} (separates : isSeparator c = true) :
    Respells (before ++ c :: text) (before ++ c :: other) := by
  cases respells with
  | letters same => exact .letters (by simp [same])
  | sign inner after separatesFirst separatesToo =>
    have changed := Respells.sign (before ++ c :: inner) after separatesFirst separatesToo
    simpa using changed
  | beside inner after separatesFirst separatesToo =>
    have changed := Respells.beside (before ++ c :: inner) after separatesFirst separatesToo
    simpa using changed
  | ahead text separatesToo => exact .beside before text separates separatesToo
  | behind text separatesToo =>
    have changed := Respells.behind (before ++ c :: text) separatesToo
    simpa using changed

/-- What follows a separator can be respelled in several steps. -/
theorem eqvGen_append {text other : List Char} (respelled : EqvGen Respells text other)
    (before : List Char) {c : Char} (separates : isSeparator c = true) :
    EqvGen Respells (before ++ c :: text) (before ++ c :: other) := by
  induction respelled with
  | rel text other respells => exact .rel _ _ (respells.append before separates)
  | refl text => exact .refl _
  | symm text other _ turned => exact .symm _ _ turned
  | trans text between other _ _ first second => exact .trans _ _ _ first second

/-- A text in which nothing is to be changed but its letters is put in lower case. -/
theorem eqvGen_map_lowerChar (text : List Char) :
    EqvGen Respells text (text.map Text.lowerChar) :=
  .rel _ _ (.letters (Text.map_map_lowerChar text).symm)

/-- Every text can be spelled as its segments in lower case, joined with backslashes. -/
theorem eqvGen_intercalate (text : List Char) :
    EqvGen Respells text (['\\'].intercalate (segmentKey text)) := by
  induction measured : text.length using Nat.strongRecOn generalizing text with
  | ind size inductionHypothesis =>
  cases found : text.find? isSeparator with
  | none =>
    have plain : ∀ c ∈ text, isSeparator c = false := by
      simpa using List.find?_eq_none.mp found
    by_cases filled : text = []
    · rw [filled]
      exact .refl _
    · rw [segmentKey, segments_of_plain filled plain, List.map_singleton,
        List.intercalate_singleton]
      exact eqvGen_map_lowerChar text
  | some c =>
    obtain ⟨separates, before, after, rfl, plain⟩ := List.find?_eq_some_iff_append.mp found
    have plain : ∀ c ∈ before, isSeparator c = false := by simpa using plain
    have shorter : after.length < size := by
      rw [← measured, List.length_append, List.length_cons]
      omega
    have behind := inductionHypothesis after.length shorter after rfl
    have parted := eqvGen_append behind before separates
    by_cases filled : before = []
    · rw [filled, List.nil_append, segmentKey, segments_cons separates]
      exact .trans _ _ _ (.symm _ _ (.rel _ _ (.ahead after separates))) behind
    · rw [segmentKey, segments_append separates, segments_of_plain filled plain,
        List.singleton_append, List.map_cons, ← segmentKey]
      refine .trans _ _ _ parted ?_
      cases segmentKey after with
      | nil =>
        -- Only separators follow, of which one is left.
        rw [List.intercalate_singleton]
        have shortened : EqvGen Respells (before ++ [c]) before :=
          .symm _ _ (.rel _ _ (.behind before separates))
        exact .trans _ _ _ shortened (eqvGen_map_lowerChar before)
      | cons segment others =>
        rw [List.intercalate_cons_cons]
        generalize ['\\'].intercalate (segment :: others) = rest
        have exchanged := Respells.sign before rest separates (rfl : isSeparator '\\' = true)
        refine .trans _ _ _ (.rel _ _ exchanged) (.rel _ _ (.letters ?_))
        simp [Text.lowerChar_lowerChar]

/-- Paths are spellings of each other just if their filters have one key. -/
theorem respelled_iff (path other : String) :
    Respelled path other ↔ filterKey path = filterKey other := by
  rw [filterKey_eq_iff]
  constructor
  · intro respelled
    rw [Respelled] at respelled
    generalize path.toList = text at respelled
    generalize other.toList = textToo at respelled
    induction respelled with
    | rel text other respells => exact respells.segmentKey_eq
    | refl text => rfl
    | symm text other _ turned => exact turned.symm
    | trans text between other _ _ first second => exact first.trans second
  · intro same
    have left := eqvGen_intercalate path.toList
    have right := eqvGen_intercalate other.toList
    rw [← same] at right
    exact .trans _ _ _ left (.symm _ _ right)

end Spellings

end ProjectScribe.Reading.ElementFormat
