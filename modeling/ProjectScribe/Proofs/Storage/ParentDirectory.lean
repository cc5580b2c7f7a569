import Mathlib.Data.List.TakeWhile
import ProjectScribe.Proofs.Storage.Replacement

/-!
# The directory of a file

A file goes to a scratch file in the directory that holds it, and this directory is found by a path
of its own: the path of the file without its last name and without the slashes and dots before
that. What was left out leads nowhere else, so that the shorter path leads to the directory that
the whole path passes through last.
-/
namespace ProjectScribe.Storage.FileTree

variable {tree : FileTree} {directory : Location} {path name : String} {above : List String}

/-- A part of a path at its start, unless it is empty, is a path that a file can have if the whole
path is. -/
theorem pathDefect_of_append {whole : String} {rest : List Char}
    (usable : pathDefect whole = none) (parted : whole.toList = path.toList ++ rest)
    (filled : path ≠ "") : pathDefect path = none := by
  have joined : whole = path ++ String.ofList rest := by
    rw [← String.toList_inj, String.toList_append, String.toList_ofList, parted]
  have size : path.utf8ByteSize ≤ whole.utf8ByteSize := by
    rw [joined, String.utf8ByteSize_append]
    exact Nat.le_add_right ..
  unfold pathDefect at usable ⊢
  split at usable
  · exact nomatch usable
  · next clean =>
    split at usable
    · exact nomatch usable
    · split at usable
      · exact nomatch usable
      · next short =>
        have cleanPart : ¬ path.toList.contains '\x00' = true := by
          simp only [parted, List.contains_eq_mem, List.mem_append, decide_eq_true_eq,
            not_or] at clean ⊢
          exact clean.1
        rw [if_neg cleanPart, if_neg filled, if_neg (by omega)]

section Parent

variable {before : List (List Char)}

/-- A segment that is no component is empty or a dot. -/
theorem eq_of_not_isSignificant {segment : List Char} {place : Nat}
    (left : Path.isSignificant (segment, place) = false) : segment = [] ∨ segment = ['.'] := by
  simp only [Path.isSignificant, Bool.and_eq_false_iff, Bool.or_eq_false_iff, bne_eq_false_iff_eq]
    at left
  exact left.imp_right (·.1)

theorem namesIn_dots {dropped : List (List Char)}
    (dots : ∀ segment ∈ dropped, segment = [] ∨ segment = ['.']) :
    ∀ name ∈ namesIn dropped, name = "." := by
  intro name listed
  simp only [namesIn, List.mem_map, List.mem_filter] at listed
  obtain ⟨segment, ⟨kept, named⟩, rfl⟩ := listed
  rcases dots segment kept with rfl | rfl
  · simp at named
  · rfl

/-- The parent of a path is the part of it before its last name, less the slashes and dots at the
end of that part. It is the top or empty if nothing but slashes and dots stands there. -/
inductive ParentOf (path : String) (before : List (List Char)) : Prop where
  | nothing (left : ∀ segment ∈ before.zipIdx, Path.isSignificant segment = false)
      (parent : Path.parent path = some (if Path.isRooted path then "/" else ""))
  | part (kept dropped : List (List Char)) (parts : before = kept ++ dropped)
      (named : ∃ segment ∈ kept, segment ≠ [])
      (dots : ∀ segment ∈ dropped, segment = [] ∨ segment = ['.'])
      (parent : Path.parent path = some (String.ofList (Text.join ['/'] kept)))

theorem parentOf_of_segments (cut : Path.segments path = before ++ [name.toList])
    (named : name ≠ "") (here : name ≠ ".") : ParentOf path before := by
  have significant : Path.isSignificant (name.toList, before.length) = true := by
    have filled : name.toList ≠ [] := by simpa using named
    have other : name.toList ≠ ['.'] := fun same => here (String.toList_inj.mp same)
    simp [Path.isSignificant, filled, other]
  have last : (before ++ [name.toList]).zipIdx.reverse.dropWhile (!Path.isSignificant ·) =
      (name.toList, before.length) :: before.zipIdx.reverse := by
    simp [List.zipIdx_append, significant]
  have parted : before.zipIdx.reverse.takeWhile (!Path.isSignificant ·) ++
      before.zipIdx.reverse.dropWhile (!Path.isSignificant ·) = before.zipIdx.reverse :=
    List.takeWhile_append_dropWhile
  have left : ∀ segment ∈ before.zipIdx.reverse.takeWhile (!Path.isSignificant ·),
      Path.isSignificant segment = false := by
    intro segment listed
    simpa using List.mem_takeWhile_imp listed
  generalize before.zipIdx.reverse.takeWhile (!Path.isSignificant ·) = dropped at parted left
  cases remaining : before.zipIdx.reverse.dropWhile (!Path.isSignificant ·) with
  | nil =>
    rw [remaining, List.append_nil] at parted
    have parent : Path.parent path = some (if Path.isRooted path then "/" else "") := by
      simp only [Path.parent, cut, last, remaining]
    refine .nothing (fun segment listed => left segment ?_) parent
    rw [parted]
    exact List.mem_reverse.mpr listed
  | cons first others =>
    rw [remaining] at parted
    have parent : Path.parent path =
        some (String.ofList (Text.join ['/'] ((first :: others).reverse.map (·.1)))) := by
      simp only [Path.parent, cut, last, remaining]
    have whole : before = ((first :: others).reverse.map (·.1)) ++ (dropped.reverse.map (·.1)) := by
      have listed : before.zipIdx = (first :: others).reverse ++ dropped.reverse := by
        rw [← List.reverse_append, parted, List.reverse_reverse]
      rw [← List.map_append, ← listed, List.zipIdx_map_fst]
    have standing : Path.isSignificant first = true := by
      have head := List.head?_dropWhile_not (!Path.isSignificant ·) before.zipIdx.reverse
      rw [remaining] at head
      simpa using head
    refine .part _ _ whole ⟨first.1, by simp, ?_⟩ (fun segment listed => ?_) parent
    · rintro empty
      simp [Path.isSignificant, empty] at standing
    · obtain ⟨entry, kept, rfl⟩ := List.mem_map.mp listed
      exact eq_of_not_isSignificant (left entry (List.mem_reverse.mp kept))

end Parent

section Directory

theorem directory_eq {parent : String} (found : Path.parent path = some parent) :
    Path.directory path = if parent = "" then "." else parent := by
  rw [Path.directory, found]
  by_cases empty : parent = ""
  · rw [empty]
    rfl
  · rw [if_neg empty]
    split
    · next absent => exact nomatch absent
    · next same => exact absurd (Option.some.inj same) empty
    · next same => exact (Option.some.inj same).symm

/-- Where nothing but slashes and dots stands before the last name of a path, its directory is the
top or the home directory. -/
theorem locate_of_nothing {before : List (List Char)}
    (left : ∀ segment ∈ before.zipIdx, Path.isSignificant segment = false)
    (parent : Path.parent path = some (if Path.isRooted path then "/" else ""))
    (led : tree.follow (tree.startOf path) (namesIn before) = .ok directory)
    (stands : tree.isDirectory directory = true) :
    tree.locate (Path.directory path) = .ok directory := by
  have dots : ∀ name ∈ namesIn before, name = "." := by
    apply namesIn_dots
    intro segment listed
    obtain ⟨place, inPath, rfl⟩ := List.mem_iff_getElem.mp listed
    exact eq_of_not_isSignificant (left (before[place], place)
      (List.mk_mem_zipIdx_iff_getElem?.mpr (List.getElem?_eq_getElem inPath)))
  have here : directory = tree.startOf path := eq_of_follow_dots dots led
  rw [directory_eq parent, locate_eq_ok_iff]
  cases rooted : Path.isRooted path with
  | true =>
    have top : directory = [] := by rw [here, startOf, rooted, if_pos rfl]
    rw [top]
    exact ⟨by decide, rfl, fun _ => rfl⟩
  | false =>
    have home : directory = tree.startOf "." := by
      rw [here, startOf, rooted]
      rfl
    have dot : tree.step directory "." = .ok directory := by
      apply step_eq_ok_iff.mpr
      constructor
      · rw [enter, stands]
        rfl
      · rw [of_decide_eq_true stands]
        rfl
    refine ⟨by decide, ?_, fun _ => stands⟩
    change tree.follow (tree.startOf ".") ["."] = .ok directory
    rw [← home]
    exact follow_cons_eq_ok_iff.mpr ⟨directory, dot, rfl⟩

/-- A part of a path that ends with a name and stands before a slash leads to where the names of
the path lead that stand before the slash. -/
theorem locate_of_part {kept dropped : List (List Char)}
    (usable : pathDefect path = none)
    (cut : Path.segments path = kept ++ dropped ++ [name.toList])
    (named : ∃ segment ∈ kept, segment ≠ [])
    (dots : ∀ segment ∈ dropped, segment = [] ∨ segment = ['.'])
    (parent : Path.parent path = some (String.ofList (Text.join ['/'] kept)))
    (led : tree.follow (tree.startOf path) (namesIn (kept ++ dropped)) = .ok directory)
    (stands : tree.isDirectory directory = true) :
    tree.locate (Path.directory path) = .ok directory := by
  have filled : kept ≠ [] := by
    rintro rfl
    obtain ⟨segment, listed, -⟩ := named
    exact nomatch listed
  rw [List.append_assoc] at cut
  obtain ⟨left, slash, right, written, separates, part, -⟩ :=
    Text.eq_append_of_pieces (· == '/') filled (List.concat_ne_nil _ dropped) cut
  have joined : Text.join ['/'] kept = left := by
    rw [← part]
    exact Text.join_pieces '/' left
  have begun : left ≠ [] := by
    rintro rfl
    obtain ⟨segment, listed, letters⟩ := named
    rw [← part] at listed
    exact letters (List.mem_singleton.mp listed)
  have filledPart : String.ofList left ≠ "" := by simpa using begun
  have parted : path.toList = (String.ofList left).toList ++ slash :: right := by
    rw [String.toList_ofList, written]
  have start : tree.startOf (String.ofList left) = tree.startOf path := by
    obtain ⟨first, rest, rfl⟩ := List.exists_cons_of_ne_nil begun
    simp [startOf, Path.isRooted, written]
  have names : namesOf (String.ofList left) = namesIn kept := by
    rw [namesOf_eq, Path.segments, String.toList_ofList, part]
  rw [namesIn_append, follow_append_names] at led
  obtain ⟨reached, ledPart, ledDots⟩ := bind_eq_ok_iff.mp led
  obtain rfl : directory = reached := eq_of_follow_dots (namesIn_dots dots) ledDots
  rw [joined] at parent
  rw [directory_eq parent, if_neg filledPart, locate_eq_ok_iff, start, names]
  exact ⟨pathDefect_of_append usable parted filledPart, ledPart, fun _ => stands⟩

/-- A scratch file can be made for a path that names something in a directory. -/
theorem directoryFor_of_hasDirectory (within : tree.HasDirectory path)
    (usable : pathDefect path = none) (plain : endsWithSlash path = false)
    (names : namesOf path = above ++ [name]) (here : name ≠ ".") :
    ∃ directory, tree.directoryFor path = .ok directory := by
  obtain ⟨others, last, directory, sameNames, led, stands⟩ := within
  rw [names] at sameNames
  obtain ⟨rfl, -⟩ := List.append_inj' sameNames rfl
  obtain ⟨before, cut, named, rfl⟩ := segments_of_names names plain
  refine ⟨directory, directoryFor_eq_ok_iff.mpr ⟨?_, stands⟩⟩
  cases parentOf_of_segments cut named here with
  | nothing left parent => exact locate_of_nothing left parent led stands
  | part kept dropped parts segment dots parent =>
    subst parts
    exact locate_of_part usable cut segment dots parent led stands

end Directory

end ProjectScribe.Storage.FileTree
