import ProjectScribe.Proofs.Reading.Slashes

/-!
# The paths that files are stored under

Items are compared by the normal forms of their paths, and the files that they state are stored in
the tree under the same normal forms: whoever compares the stored paths compares the items.

That the stored path is a normal form is another matter. An item that states it anew is the same
item if and only if no blank is hidden behind the dot components of the path that was written. Where
one is, the stored path begins with that blank, and the item that states it is another.
-/
namespace ProjectScribe.Reading.ElementFormat

open Xml (Element)

/-- Items are the same if they are of one kind and the paths of the files that they state agree up
to case. -/
theorem isSame_iff_entry (item other : Item) :
    item.isSame other = true ↔
      item.kind = other.kind ∧ Text.sameLetters item.entry.path other.entry.path = true := by
  rw [Item.path_entry, Item.path_entry, Item.isSame, Bool.and_eq_true, decide_eq_true_eq]

/-- An item that states the path under which a file is stored is the item that states the file,
unless a blank is hidden in the path of the latter. -/
theorem isSame_restated_iff (item : Item) :
    ({ item with path := item.entry.path } : Item).isSame item = true ↔
      Path.hidesBlank item.path = false := by
  rw [← Path.isNormal_normal_iff, isSame_iff_entry, Item.path_entry, Item.path_entry]
  constructor
  · rintro ⟨-, alike⟩
    -- Lower case keeps lengths, so the second normal form is no shorter than the first.
    have lengths := congrArg List.length (eq_of_beq alike)
    rw [List.length_map, List.length_map] at lengths
    exact .of_length_le (Path.isSlashed_normal item.path) lengths.ge
  · intro isNormal
    rw [Path.isNormal_iff.mp isNormal]
    exact ⟨rfl, Text.sameLetters_refl _⟩

/-- The normal form of a path has no backslash, does not begin with a dot component and does not end
with a blank; it does not begin with a blank, and stays as it is when it is normalized again, if and
only if the path hides no blank behind its dot components. Every file of a project is stored under
the normal form by which its item is compared with others; and an item that states the stored path
is the same item, again, if and only if no blank is hidden. -/
theorem normal_stable_iff (path : String) (document : Element) (companion : Option Element)
    (fallback : String) :
    IsSlashed (Path.normal path) ∧
      ¬ ['.', '/'] <+: (Path.normal path).toList ∧
      (∀ c ∈ (Path.normal path).toList.getLast?, Text.isBlank c = false) ∧
      ((∀ c ∈ (Path.normal path).toList.head?, Text.isBlank c = false) ↔
        Path.hidesBlank path = false) ∧
      (Path.normal (Path.normal path) = Path.normal path ↔ Path.hidesBlank path = false) ∧
      ∀ project ∈ (readProjects document companion fallback).value,
        ∀ file ∈ project.filters.files,
          ∃ item ∈ mergedItems document.children companion,
            item.isFile = true ∧ file.path = Path.normal item.path ∧
              (∀ other : Item, item.isSame other = true ↔
                item.kind = other.kind ∧
                  Text.sameLetters file.path (Path.normal other.path) = true) ∧
              (({ item with path := file.path } : Item).isSame item = true ↔
                Path.hidesBlank item.path = false) := by
  refine ⟨Path.isSlashed_normal path, Path.undotted_normal path, Path.isBlank_last_normal path,
    Path.isBlank_first_normal_iff path, ?_, fun project declared file stands => ?_⟩
  · rw [← Path.isNormal_iff, Path.isNormal_normal_iff]
  · obtain ⟨item, listed, isFile, rfl⟩ := exists_item_of_mem_project declared stands
    refine ⟨item, listed, isFile, Item.path_entry item, fun other => ?_, isSame_restated_iff item⟩
    rw [isSame_iff_entry, Item.path_entry other]

/-- A blank behind a dot component comes to stand in front, a second round removes it, and the item
that states the path in between is another one. -/
theorem blankBehindDot_laidBare :
    Path.normal "./ a.cpp" = " a.cpp" ∧ Text.isBlank ' ' = true ∧
      Path.normal (Path.normal "./ a.cpp") = "a.cpp" ∧
      (⟨"ClCompile", " a.cpp", []⟩ : Item).isSame ⟨"ClCompile", "./ a.cpp", []⟩ = false := by
  decide

end ProjectScribe.Reading.ElementFormat
