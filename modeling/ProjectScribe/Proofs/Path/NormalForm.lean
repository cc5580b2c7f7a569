import Mathlib.Data.List.Infix
import ProjectScribe.Path.Normal
import ProjectScribe.Proofs.Text.Blank

/-!
# Paths in their normal form

A path is in its normal form if it has no backslash, no dot component in front and no blanks at its
ends. These are the paths that `normal` leaves as they are.

What `normal` makes of a path has no backslash, no dot component in front and no blank at its end.
But the path is trimmed before its dot components are dropped, and not again, so a blank right
behind these comes to stand in front. The outcome is in its normal form if and only if no blank is
hidden in this way.
-/
namespace ProjectScribe

/-- Whether a path has no backslash. -/
def IsSlashed (path : String) : Prop := '\\' ∉ path.toList

instance (path : String) : Decidable (IsSlashed path) := inferInstanceAs (Decidable (_ ∉ _))

namespace Path

/-- A path in its normal form. -/
structure IsNormal (path : String) : Prop where
  slashed : IsSlashed path
  undotted : ¬ ['.', '/'] <+: path.toList
  trimmed : Text.EndsOutside Text.isBlank path.toList

/-- Whether a text begins with dot components, with either slash, and then goes on with a blank. -/
def blankBehindDots : List Char → Bool
  | '.' :: '/' :: rest | '.' :: '\\' :: rest =>
    rest.head?.any Text.isBlank || blankBehindDots rest
  | _ => false

/-- Whether the dot components in front of a path hide a blank when the path is trimmed. -/
def hidesBlank (path : String) : Bool := blankBehindDots (Text.trim path.toList)

example : hidesBlank " ./.\\ a" = true := by decide
example : hidesBlank "./ " = false := by decide

section Dots

/-- Dropping leading dot components takes nothing else away. -/
theorem dropDots_suffix (path : List Char) : dropDots path <:+ path := by
  induction path using dropDots.induct with
  | case1 rest inductionHypothesis =>
    rw [dropDots]
    exact inductionHypothesis.trans ((List.suffix_cons '/' rest).trans (List.suffix_cons '.' _))
  | case2 path other =>
    rw [dropDots.eq_2 path other]

/-- No leading dot component is left. -/
theorem undotted_dropDots (path : List Char) : ¬ ['.', '/'] <+: dropDots path := by
  induction path using dropDots.induct with
  | case1 rest inductionHypothesis => rwa [dropDots]
  | case2 path other =>
    rw [dropDots.eq_2 path other]
    rintro ⟨rest, rfl⟩
    exact other rest rfl

theorem dropDots_eq_self {path : List Char} (undotted : ¬ ['.', '/'] <+: path) :
    dropDots path = path :=
  dropDots.eq_2 path fun rest whole => undotted ⟨rest, whole.symm⟩

end Dots

section Slashes

/-- Slashes and backslashes are no blanks, so no blank comes or goes with them. -/
theorem isBlank_slashed (c : Char) : Text.isBlank (slashed c) = Text.isBlank c := by
  rw [slashed]
  split
  · next same =>
    rw [same]
    rfl
  · rfl

/-- A slash comes of a slash or of a backslash. -/
theorem slashed_eq_slash_iff {c : Char} : slashed c = '/' ↔ c = '/' ∨ c = '\\' := by
  rw [slashed]
  split
  · next same => simp [same]
  · next other => simp [other]

/-- A dot comes of a dot only. -/
theorem slashed_eq_dot_iff {c : Char} : slashed c = '.' ↔ c = '.' := by
  rw [slashed]
  split
  · next same => simp [same]
  · rfl

theorem map_slashed_eq_self {path : List Char} (slashless : '\\' ∉ path) :
    path.map slashed = path := by
  refine (List.map_congr_left fun c listed => ?_).trans (List.map_id path)
  refine if_neg fun same => slashless ?_
  rwa [← same]

/-- A dot component has a slash of either kind before the slashes are made alike. -/
theorem dotted_map_slashed_iff (text : List Char) :
    ['.', '/'] <+: text.map slashed ↔ ['.', '/'] <+: text ∨ ['.', '\\'] <+: text := by
  cases text with
  | nil => simp
  | cons first text =>
    cases text with
    | nil => simp
    | cons second rest =>
      -- A prefix names its characters first, the laws of slashes name them last.
      simp only [List.map_cons, List.cons_prefix_cons, List.nil_prefix, and_true,
        @eq_comm Char '.', @eq_comm Char '/', @eq_comm Char '\\', slashed_eq_dot_iff,
        slashed_eq_slash_iff]
      exact and_or_left

/-- What is left behind the dot components of a text begins with a blank, if the text does or if
there is one right behind its dot components. -/
theorem any_isBlank_dropDots (text : List Char) :
    (dropDots (text.map slashed)).head?.any Text.isBlank =
      (text.head?.any Text.isBlank || blankBehindDots text) := by
  induction text using blankBehindDots.induct with
  | case1 rest inductionHypothesis =>
    rw [blankBehindDots, ← inductionHypothesis]
    rfl
  | case2 rest inductionHypothesis =>
    rw [blankBehindDots, ← inductionHypothesis]
    rfl
  | case3 text noSlash noBackslash =>
    have undotted : ¬ ['.', '/'] <+: text.map slashed := by
      rw [dotted_map_slashed_iff]
      rintro (⟨rest, whole⟩ | ⟨rest, whole⟩)
      · exact noSlash rest whole.symm
      · exact noBackslash rest whole.symm
    have none : blankBehindDots text = false := blankBehindDots.eq_3 text noSlash noBackslash
    rw [dropDots_eq_self undotted, none, Bool.or_false, List.head?_map, Option.any_map]
    congr 1
    exact funext isBlank_slashed

end Slashes

section Normal

variable (path : String)

theorem toList_normal :
    (normal path).toList = dropDots ((Text.trim path.toList).map slashed) :=
  String.toList_ofList

/-- The normal form of a path has no backslash. -/
@[simp] theorem isSlashed_normal : IsSlashed (normal path) := by
  intro inside
  rw [toList_normal] at inside
  obtain ⟨c, -, same⟩ := List.mem_map.mp ((dropDots_suffix _).mem inside)
  unfold slashed at same
  split at same
  · cases same
  · next other => exact other same

/-- It does not begin with a dot component. -/
theorem undotted_normal : ¬ ['.', '/'] <+: (normal path).toList := by
  rw [toList_normal]
  exact undotted_dropDots _

/-- It does not end with a blank. -/
theorem isBlank_last_normal : ∀ c ∈ (normal path).toList.getLast?, Text.isBlank c = false := by
  intro c ends
  rw [toList_normal] at ends
  obtain ⟨dropped, whole⟩ := dropDots_suffix ((Text.trim path.toList).map slashed)
  have last : c ∈ ((Text.trim path.toList).map slashed).getLast? := by
    rw [← whole, List.getLast?_append, Option.mem_def.mp ends]
    rfl
  rw [List.getLast?_map] at last
  obtain ⟨written, ended, rfl⟩ := Option.map_eq_some_iff.mp last
  rw [isBlank_slashed]
  exact (Text.endsOutside_strip Text.isBlank path.toList).last written ended

/-- It begins with a blank just if the dot components have hidden one. -/
theorem isBlank_first_normal_iff :
    (∀ c ∈ (normal path).toList.head?, Text.isBlank c = false) ↔ hidesBlank path = false := by
  have first : (Text.trim path.toList).head?.any Text.isBlank = false :=
    (Option.any_eq_false _ _).mpr (Text.endsOutside_strip Text.isBlank path.toList).first
  have begins := any_isBlank_dropDots (Text.trim path.toList)
  rw [← toList_normal, first, Bool.false_or] at begins
  rw [hidesBlank, ← begins, Option.any_eq_false]
  rfl

/-- What `normal` makes of a path is in its normal form unless a blank is hidden. -/
theorem isNormal_normal_iff : IsNormal (normal path) ↔ hidesBlank path = false := by
  rw [← isBlank_first_normal_iff]
  constructor
  · exact fun isNormal => isNormal.trimmed.first
  · exact fun first => ⟨isSlashed_normal path, undotted_normal path,
      first, isBlank_last_normal path⟩

variable {path}

/-- A path without backslashes that `normal` makes no shorter is in its normal form. -/
theorem IsNormal.of_length_le (slashed : IsSlashed path)
    (long : path.toList.length ≤ (normal path).toList.length) : IsNormal path := by
  have dropped := dropDots_suffix ((Text.trim path.toList).map Path.slashed)
  have trimmed := (Text.strip_infix Text.isBlank path.toList).sublist
  rw [toList_normal] at long
  have kept : Text.trim path.toList = path.toList := by
    apply trimmed.eq_of_length_le
    have most := dropped.length_le
    rw [List.length_map] at most
    exact long.trans most
  rw [kept, map_slashed_eq_self slashed] at dropped long
  refine ⟨slashed, ?_, Text.strip_eq_self_iff.mp kept⟩
  rw [← dropped.eq_of_length_le long]
  exact undotted_dropDots _

/-- The paths in their normal form are those that `normal` leaves as they are. -/
theorem isNormal_iff : IsNormal path ↔ normal path = path := by
  constructor
  · intro isNormal
    have kept : Text.trim path.toList = path.toList := isNormal.trimmed.strip_eq
    rw [normal, kept, map_slashed_eq_self isNormal.slashed, dropDots_eq_self isNormal.undotted,
      String.ofList_toList]
  · intro same
    have slashed := isSlashed_normal path
    rw [same] at slashed
    exact .of_length_le slashed (by rw [same])

end Normal

end Path

end ProjectScribe
