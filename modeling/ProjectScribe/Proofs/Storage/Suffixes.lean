import ProjectScribe.Proofs.Storage.Addresses
import ProjectScribe.Proofs.Text.Pieces

/-!
# Paths with something behind their last name

A companion, a backup and a script are found by a path with a text behind it. Such a path leads
through the same directories as the path alone, and only its last name differs: so the file and
the one with the longer name stand beside each other, at different addresses.
-/
namespace ProjectScribe

namespace Storage.FileTree

variable {tree : FileTree} {location other directory : Location} {path suffix name : String}
  {above : List String}

/-- The names in segments: those that are not empty. -/
def namesIn (segments : List (List Char)) : List String :=
  (segments.filter (!·.isEmpty)).map String.ofList

@[simp] theorem namesIn_append (front back : List (List Char)) :
    namesIn (front ++ back) = namesIn front ++ namesIn back := by
  simp [namesIn]

@[simp] theorem namesIn_singleton {segment : List Char} (named : segment ≠ []) :
    namesIn [segment] = [String.ofList segment] := by
  simp [namesIn, named]

theorem namesOf_eq (path : String) : namesOf path = namesIn (Path.segments path) := rfl

/-- The last name of a path that does not end with a slash is its last segment. -/
theorem segments_of_names (names : namesOf path = above ++ [name])
    (plain : endsWithSlash path = false) :
    ∃ before, Path.segments path = before ++ [name.toList] ∧ name ≠ "" ∧
      above = namesIn before := by
  obtain ⟨before, last, cut, -⟩ := Text.pieces_append (· == '/') path.toList [] (by simp)
  have named : last ≠ [] := by
    rintro rfl
    rcases Text.getLast?_of_pieces _ _ cut with empty | ⟨c, ends, slash⟩
    · simp [namesOf, Path.segments, empty, Text.pieces] at names
    · rw [endsWithSlash, ends, eq_of_beq slash] at plain
      exact absurd plain (by decide)
  rw [namesOf_eq, Path.segments, cut, namesIn_append, namesIn_singleton named] at names
  obtain ⟨sameAbove, sameLast⟩ := List.append_inj' names rfl
  obtain rfl : String.ofList last = name := List.head_eq_of_cons_eq sameLast
  refine ⟨before, ?_, ?_, sameAbove.symm⟩
  · rw [String.toList_ofList]
    exact cut
  · simpa using named

/-- The last name of a path is lengthened by what stands behind the path. -/
theorem namesOf_append (names : namesOf path = above ++ [name]) (plain : endsWithSlash path = false)
    (single : '/' ∉ suffix.toList) : namesOf (path ++ suffix) = above ++ [name ++ suffix] := by
  have within : ∀ c ∈ suffix.toList, (c == '/') = false := by
    intro c listed
    rw [beq_eq_false_iff_ne]
    rintro rfl
    exact single listed
  obtain ⟨front, cut, named, rfl⟩ := segments_of_names names plain
  obtain ⟨before, last, alone, longer⟩ := Text.pieces_append (· == '/') path.toList _ within
  rw [Path.segments, alone] at cut
  obtain ⟨rfl, sameLast⟩ := List.append_inj' cut rfl
  obtain rfl : last = name.toList := List.head_eq_of_cons_eq sameLast
  have filled : name.toList ++ suffix.toList ≠ [] := by simp [named]
  rw [namesOf_eq, Path.segments, String.toList_append, longer, namesIn_append,
    namesIn_singleton filled, String.ofList_append, String.ofList_toList, String.ofList_toList]

/-- A path starts where it does without what stands behind it. -/
theorem startOf_append (names : namesOf path = above ++ [name]) :
    tree.startOf (path ++ suffix) = tree.startOf path := by
  have written : path.toList ≠ [] := by
    intro empty
    simp [namesOf, Path.segments, empty, Text.pieces] at names
  obtain ⟨first, rest, letters⟩ := List.exists_cons_of_ne_nil written
  simp [startOf, Path.isRooted, letters]

/-- What stands behind a path does not change the directory for its last name. -/
theorem hasDirectory_append (within : tree.HasDirectory path) (plain : endsWithSlash path = false)
    (single : '/' ∉ suffix.toList) : tree.HasDirectory (path ++ suffix) := by
  obtain ⟨above, name, directory, names, led, stands⟩ := within
  refine ⟨above, name ++ suffix, directory, namesOf_append names plain single, ?_, stands⟩
  rw [startOf_append names]
  exact led

/-- With something behind it, a path leads to a location below the same directory whose name ends
with that. -/
theorem address_append (leads : tree.address path = some location)
    (plain : endsWithSlash path = false) (single : '/' ∉ suffix.toList) (long : 2 < suffix.length)
    (leadsBehind : tree.address (path ++ suffix) = some other) :
    ∃ directory name, other = directory ++ [name ++ suffix] ∧
      tree.enter directory name = .ok location := by
  obtain ⟨-, above, name, directory, names, led, entered⟩ := address_eq_some_iff.mp leads
  obtain ⟨-, others, longer, reached, namesBehind, ledBehind, enteredBehind⟩ :=
    address_eq_some_iff.mp leadsBehind
  rw [namesOf_append names plain single] at namesBehind
  obtain ⟨rfl, sameLast⟩ := List.append_inj' namesBehind rfl
  obtain rfl : name ++ suffix = longer := List.head_eq_of_cons_eq sameLast
  rw [startOf_append names, led, Except.ok.injEq] at ledBehind
  subst ledBehind
  have size : (name ++ suffix).length = name.length + suffix.length := String.length_append ..
  refine ⟨directory, name, ?_, entered⟩
  apply eq_append_of_enter enteredBehind <;> intro same <;> rw [same] at size
  · have short : ".".length = 1 := by decide
    omega
  · have short : "..".length = 2 := by decide
    omega

/-- With something behind it, a path leads to a location of its own. -/
theorem address_append_ne (leads : tree.address path = some location)
    (plain : endsWithSlash path = false) (single : '/' ∉ suffix.toList) (long : 2 < suffix.length)
    (leadsBehind : tree.address (path ++ suffix) = some other) : other ≠ location := by
  obtain ⟨directory, name, rfl, entered⟩ := address_append leads plain single long leadsBehind
  have size : (name ++ suffix).length = name.length + suffix.length := String.length_append ..
  rintro rfl
  rcases length_of_enter entered with down | up
  · have sameName := List.head_eq_of_cons_eq (List.append_cancel_left down)
    have shorter := congrArg String.length sameName
    omega
  · rw [List.length_append, List.length_singleton] at up
    omega

end Storage.FileTree

end ProjectScribe
