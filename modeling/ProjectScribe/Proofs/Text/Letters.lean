import Mathlib.Data.List.Basic
import ProjectScribe.Text.Blank
import ProjectScribe.Text.Letters

/-!
# Laws of letters without case

To put a character in lower case is to leave it or to go from `A` to `Z` thirty-two places on. So
no blank and no sign comes of a letter or becomes one, and texts are trimmed, joined and cut at
signs the same before their letters are put in lower case and after.
-/
namespace ProjectScribe.Text

section Characters

/-- A character stays in lower case, unless it is one of `A` to `Z`. -/
theorem lowerChar_eq_self_or (c : Char) :
    lowerChar c = c ∨ 65 ≤ c.toNat ∧ c.toNat ≤ 90 ∧ (lowerChar c).toNat = c.toNat + 32 := by
  by_cases upper : c.val ≥ 'A'.val ∧ c.val ≤ 'Z'.val
  · have lowered : (lowerChar c).val = c.val + ('a'.val - 'A'.val) :=
      congrArg Char.val (dif_pos upper)
    obtain ⟨least, most⟩ := upper
    have first : 65 ≤ c.val.toNat := least
    have last : c.val.toNat ≤ 90 := most
    have shifted : (lowerChar c).val.toNat = c.val.toNat + 32 := by
      rw [lowered, UInt32.toNat_add]
      apply Nat.mod_eq_of_lt
      change c.val.toNat + 32 < 2 ^ 32
      omega
    exact .inr ⟨first, last, shifted⟩
  · exact .inl (dif_neg upper)

/-- Lower case stays. -/
theorem lowerChar_lowerChar (c : Char) : lowerChar (lowerChar c) = lowerChar c := by
  rcases lowerChar_eq_self_or c with same | ⟨first, -, shifted⟩
  · rw [same, same]
  · rcases lowerChar_eq_self_or (lowerChar c) with same | ⟨-, last, -⟩
    · exact same
    · omega

/-- A sign that is no letter comes of no other character. -/
theorem lowerChar_eq_iff (sign : Char)
    (apart : sign.toNat < 65 ∨ 90 < sign.toNat ∧ sign.toNat < 97 ∨ 122 < sign.toNat) (c : Char) :
    lowerChar c = sign ↔ c = sign := by
  rcases lowerChar_eq_self_or c with same | ⟨first, last, shifted⟩
  · rw [same]
  · constructor
    · rintro rfl
      omega
    · rintro rfl
      omega

/-- A letter is no blank in either case. -/
theorem isBlank_lowerChar (c : Char) : isBlank (lowerChar c) = isBlank c := by
  rcases lowerChar_eq_self_or c with same | ⟨first, last, shifted⟩
  · rw [same]
  · simp only [isBlank, shifted]
    rw [Bool.eq_iff_iff]
    simp only [Bool.or_eq_true, Bool.and_eq_true, decide_eq_true_eq, beq_iff_eq]
    omega

end Characters

section Texts

/-- A text in lower case stays. -/
theorem map_map_lowerChar (text : List Char) :
    (text.map lowerChar).map lowerChar = text.map lowerChar := by
  rw [List.map_map]
  exact List.map_congr_left fun c _ => lowerChar_lowerChar c

/-- A text can be trimmed before or after its letters are put in lower case. -/
theorem map_trim (text : List Char) : (trim text).map lowerChar = trim (text.map lowerChar) := by
  have blank : isBlank ∘ lowerChar = isBlank := funext isBlank_lowerChar
  rw [trim, trim, strip, strip, dropEndWhile, dropEndWhile, List.dropWhile_map, blank,
    ← List.map_reverse, List.dropWhile_map, blank, List.map_reverse]

/-- Texts that are joined with a sign can be put in lower case before or after. -/
theorem map_intercalate {sign : Char} (fixed : lowerChar sign = sign) (texts : List (List Char)) :
    ([sign].intercalate texts).map lowerChar =
      [sign].intercalate (texts.map (·.map lowerChar)) := by
  induction texts with
  | nil => rfl
  | cons text rest inductionHypothesis =>
    cases rest with
    | nil => simp
    | cons other others =>
      rw [List.map_cons] at inductionHypothesis
      simp only [List.map_cons, List.intercalate_cons_cons, List.map_append, inductionHypothesis,
        List.map_nil, fixed]

/-- A path of names, without case, is the path of the names without case. -/
theorem lower_intercalate (names : List String) :
    lower ("\\".intercalate names) = "\\".intercalate (names.map lower) := by
  rw [← String.toList_inj, String.toList_intercalate, lower, String.toList_ofList,
    String.toList_intercalate]
  change (['\\'].intercalate _).map lowerChar = ['\\'].intercalate _
  rw [map_intercalate rfl, List.map_map, List.map_map]
  congr 1
  apply List.map_congr_left
  intro name _
  simp [lower]

end Texts

end ProjectScribe.Text
