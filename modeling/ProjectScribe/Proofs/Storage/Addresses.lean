import ProjectScribe.Storage.FileTree

/-!
# Where the file with a path stands

A path leads through directories to the location of its last name, whether anything stands there
or not. This location, its address, depends on the directories of a tree and not on its files: so
it stays the same while files are written, and what is read under a path is decided by what stands
at its address alone.
-/
namespace ProjectScribe.Storage

/-- A composition succeeds if both of its steps do. -/
theorem bind_eq_ok_iff {ε α β : Type} {first : Except ε α} {next : α → Except ε β} {b : β} :
    first >>= next = .ok b ↔ ∃ a, first = .ok a ∧ next a = .ok b := by
  constructor
  · intro composed
    cases first with
    | ok a => exact ⟨a, rfl, composed⟩
    | error cause => exact nomatch composed
  · rintro ⟨a, rfl, second⟩
    exact second

theorem toOption_eq_some_iff {ε α : Type} {result : Except ε α} {a : α} :
    result.toOption = some a ↔ result = .ok a := by
  cases result <;> simp [Except.toOption]

namespace FileTree

section Directories

variable {tree before after : FileTree} {start directory location next : Location}
  {name path : String} {names : List String}

theorem checkPath_eq_ok_iff {passed : Unit} :
    checkPath path = .ok passed ↔ pathDefect path = none := by
  unfold checkPath
  cases pathDefect path <;> simp

/-- A name leads on only from a directory. -/
theorem isDirectory_of_enter (entered : tree.enter location name = .ok next) :
    tree.isDirectory location = true := by
  unfold enter at entered
  cases stands : tree.isDirectory location with
  | true => rfl
  | false => simp [stands] at entered

/-- Unless it is a dot or two, a name leads to the location below with that name. -/
theorem eq_append_of_enter (entered : tree.enter location name = .ok next) (here : name ≠ ".")
    (up : name ≠ "..") : next = location ++ [name] := by
  unfold enter at entered
  rw [if_neg here, if_neg up] at entered
  split at entered
  · exact nomatch entered
  · split at entered
    · exact nomatch entered
    · exact (Except.ok.inj entered).symm

/-- A name leads one level down, or not down at all. -/
theorem length_of_enter (entered : tree.enter location name = .ok next) :
    next = location ++ [name] ∨ next.length ≤ location.length := by
  unfold enter at entered
  split at entered
  · exact nomatch entered
  · split at entered
    · exact .inr (Nat.le_of_eq (congrArg List.length (Except.ok.inj entered).symm))
    · split at entered
      · refine .inr ?_
        rw [← Except.ok.inj entered, List.length_dropLast]
        exact Nat.sub_le ..
      · split at entered
        · exact nomatch entered
        · exact .inl (Except.ok.inj entered).symm

theorem step_eq_ok_iff : tree.step location name = .ok next ↔
    tree.enter location name = .ok next ∧ (tree.find? next).isSome = true := by
  unfold step
  rw [bind_eq_ok_iff]
  constructor
  · rintro ⟨reached, entered, checked⟩
    split at checked
    · next stands =>
      obtain rfl : reached = next := Except.ok.inj checked
      exact ⟨entered, stands⟩
    · exact nomatch checked
  · rintro ⟨entered, stands⟩
    exact ⟨next, entered, by rw [if_pos stands]; rfl⟩

theorem follow_cons_eq_ok_iff : tree.follow start (name :: names) = .ok location ↔
    ∃ next, tree.step start name = .ok next ∧ tree.follow next names = .ok location := by
  rw [follow, bind_eq_ok_iff]

/-- Names lead on from where those before them lead. -/
theorem follow_append_names (above names : List String) : tree.follow start (above ++ names) =
    tree.follow start above >>= fun directory => tree.follow directory names := by
  induction above generalizing start with
  | nil => rfl
  | cons first above inductionHypothesis =>
    rw [List.cons_append, follow, follow, bind_assoc]
    simp only [inductionHypothesis]

theorem follow_append (above : List String) : tree.follow start (above ++ [name]) =
    tree.follow start above >>= fun directory => tree.step directory name := by
  have single : ∀ directory, tree.follow directory [name] = tree.step directory name :=
    fun directory => bind_pure (tree.step directory name)
  simp only [follow_append_names, single]

/-- Dots lead nowhere else. -/
theorem eq_of_follow_dots (dots : ∀ name ∈ names, name = ".")
    (led : tree.follow start names = .ok location) : location = start := by
  induction names generalizing start with
  | nil => exact (Except.ok.inj led).symm
  | cons name rest inductionHypothesis =>
    obtain ⟨next, stepped, further⟩ := follow_cons_eq_ok_iff.mp led
    obtain rfl := dots name List.mem_cons_self
    have same : next = start := by
      have entered := (step_eq_ok_iff.mp stepped).1
      have stands := isDirectory_of_enter entered
      rw [enter, stands] at entered
      exact (Except.ok.inj entered).symm
    rw [← same]
    exact inductionHypothesis (fun other listed => dots other (List.mem_cons_of_mem _ listed))
      further

/-- Names that lead to a directory start from one. -/
theorem isDirectory_of_follow (led : tree.follow start names = .ok directory)
    (stands : tree.isDirectory directory = true) : tree.isDirectory start = true := by
  cases names with
  | nil =>
    obtain rfl : start = directory := Except.ok.inj led
    exact stands
  | cons name rest =>
    obtain ⟨next, stepped, -⟩ := follow_cons_eq_ok_iff.mp led
    exact isDirectory_of_enter (step_eq_ok_iff.mp stepped).1

/-- Two trees with the same directories, seen from the same one and with the same rights. -/
structure SameDirectories (before after : FileTree) : Prop where
  home : after.home = before.home
  rights : after.isPrivileged = before.isPrivileged
  directories : ∀ location, after.isDirectory location = before.isDirectory location

theorem SameDirectories.refl (tree : FileTree) : SameDirectories tree tree :=
  ⟨rfl, rfl, fun _ => rfl⟩

theorem SameDirectories.symm (same : SameDirectories before after) :
    SameDirectories after before :=
  ⟨same.home.symm, same.rights.symm, fun location => (same.directories location).symm⟩

theorem SameDirectories.trans {last : FileTree} (first : SameDirectories before after)
    (second : SameDirectories after last) : SameDirectories before last :=
  ⟨second.home.trans first.home, second.rights.trans first.rights,
    fun location => (second.directories location).trans (first.directories location)⟩

theorem SameDirectories.mayRead (same : SameDirectories before after) (mode : Nat) :
    after.mayRead mode = before.mayRead mode := by
  unfold FileTree.mayRead
  rw [same.rights]

theorem SameDirectories.startOf (same : SameDirectories before after) (path : String) :
    after.startOf path = before.startOf path := by
  unfold FileTree.startOf
  rw [same.home]

theorem SameDirectories.enter (same : SameDirectories before after) (location : Location)
    (name : String) : after.enter location name = before.enter location name := by
  unfold FileTree.enter
  rw [same.directories]

/-- Names that lead to a directory do so in every tree with the same directories: all that they
pass through are directories. -/
theorem SameDirectories.follow (same : SameDirectories before after)
    (led : before.follow start names = .ok directory)
    (stands : before.isDirectory directory = true) :
    after.follow start names = .ok directory := by
  induction names generalizing start with
  | nil => exact led
  | cons name rest inductionHypothesis =>
    obtain ⟨next, stepped, rest⟩ := follow_cons_eq_ok_iff.mp led
    have passed : after.isDirectory next = true := by
      rw [same.directories]
      exact isDirectory_of_follow rest stands
    have found : (after.find? next).isSome = true := by
      rw [of_decide_eq_true passed]
      rfl
    have entered := (step_eq_ok_iff.mp stepped).1
    rw [← same.enter] at entered
    exact follow_cons_eq_ok_iff.mpr
      ⟨next, step_eq_ok_iff.mpr ⟨entered, found⟩, inductionHypothesis rest⟩

end Directories

section Addresses

variable {tree before after : FileTree} {location : Location} {name path : String}
  {above : List String}

/-- The location of the last name of a path, whether or not anything stands there. A path without
names has no address. -/
def address (tree : FileTree) (path : String) : Option Location :=
  match (namesOf path).reverse with
  | [] => none
  | name :: above =>
    (do
      checkPath path
      let directory ← tree.follow (tree.startOf path) above.reverse
      tree.enter directory name : Except Cause Location).toOption

theorem address_eq_some_iff : tree.address path = some location ↔
    pathDefect path = none ∧ ∃ above name directory, namesOf path = above ++ [name] ∧
      tree.follow (tree.startOf path) above = .ok directory ∧
      tree.enter directory name = .ok location := by
  unfold address
  rcases List.eq_nil_or_concat (namesOf path) with none | ⟨above, name, names⟩
  · simp [none]
  · rw [names, List.concat_eq_append, List.reverse_append]
    simp only [List.reverse_cons, List.reverse_nil, List.nil_append, List.cons_append,
      List.reverse_reverse, toOption_eq_some_iff, bind_eq_ok_iff, checkPath_eq_ok_iff]
    constructor
    · rintro ⟨_, usable, directory, led, entered⟩
      exact ⟨usable, above, name, directory, rfl, led, entered⟩
    · rintro ⟨usable, others, last, directory, same, led, entered⟩
      obtain ⟨rfl, sameLast⟩ := List.append_inj' same rfl
      obtain rfl : name = last := List.head_eq_of_cons_eq sameLast
      exact ⟨(), usable, directory, led, entered⟩

/-- Unless it is a dot or two, the last name of a path is that of its address. -/
theorem eq_append_of_address (leads : tree.address path = some location)
    (names : namesOf path = above ++ [name]) (here : name ≠ ".") (up : name ≠ "..") :
    ∃ directory, location = directory ++ [name] := by
  obtain ⟨-, others, last, directory, sameNames, -, entered⟩ := address_eq_some_iff.mp leads
  rw [names] at sameNames
  obtain ⟨-, sameLast⟩ := List.append_inj' sameNames rfl
  obtain rfl : name = last := List.head_eq_of_cons_eq sameLast
  exact ⟨directory, eq_append_of_enter entered here up⟩

/-- Addresses depend on directories alone. -/
theorem SameDirectories.address (same : SameDirectories before after) (path : String) :
    after.address path = before.address path := by
  have kept : ∀ {before after : FileTree} {location : Location}, SameDirectories before after →
      before.address path = some location → after.address path = some location := by
    intro before after location same leads
    obtain ⟨usable, above, name, directory, names, led, entered⟩ := address_eq_some_iff.mp leads
    refine address_eq_some_iff.mpr ⟨usable, above, name, directory, names, ?_, ?_⟩
    · rw [same.startOf]
      exact same.follow led (isDirectory_of_enter entered)
    · rw [same.enter]
      exact entered
  cases old : before.address path with
  | some location => exact kept same old
  | none =>
    cases new : after.address path with
    | none => rfl
    | some location => rw [← old, kept same.symm new]

/-- A file can be put under a path whose address is not taken by a directory. -/
theorem slot_eq_ok_iff : tree.slot path = .ok location ↔
    tree.address path = some location ∧ endsWithSlash path = false ∧
      tree.isDirectory location = false := by
  unfold slot
  rw [address_eq_some_iff]
  rcases List.eq_nil_or_concat (namesOf path) with none | ⟨above, name, names⟩
  · simp [none, bind_eq_ok_iff]
  · rw [names, List.concat_eq_append, List.reverse_append]
    simp only [List.reverse_cons, List.reverse_nil, List.nil_append, List.cons_append,
      List.reverse_reverse, bind_eq_ok_iff, checkPath_eq_ok_iff]
    constructor
    · rintro ⟨_, usable, directory, led, reached, entered, found⟩
      split at found
      · exact nomatch found
      · next plain =>
        split at found
        · exact nomatch found
        · next free =>
          obtain rfl : reached = location := Except.ok.inj found
          exact ⟨⟨usable, above, name, directory, rfl, led, entered⟩, eq_false_of_ne_true plain,
            eq_false_of_ne_true free⟩
    · rintro ⟨⟨usable, others, last, directory, same, led, entered⟩, plain, free⟩
      obtain ⟨rfl, sameLast⟩ := List.append_inj' same rfl
      obtain rfl : name = last := List.head_eq_of_cons_eq sameLast
      refine ⟨(), usable, directory, led, location, entered, ?_⟩
      rw [plain, free]
      rfl

/-- A path without names leads to the top. -/
theorem startOf_of_no_names (usable : pathDefect path = none) (none : namesOf path = []) :
    tree.startOf path = [] := by
  unfold startOf
  split
  · rfl
  · next relative =>
    exfalso
    cases written : path.toList with
    | nil =>
      have empty : path = "" := String.toList_inj.mp (by rw [written]; rfl)
      rw [empty] at usable
      exact absurd usable (by decide)
    | cons first rest =>
      have inside : (first == '/') = false := by
        rw [Path.isRooted, written] at relative
        simpa using relative
      simp only [namesOf, Path.segments, written, Text.pieces, inside] at none
      cases cut : Text.pieces (· == '/') rest <;> simp [cut] at none

theorem locate_eq_ok_iff : tree.locate path = .ok location ↔
    pathDefect path = none ∧ tree.follow (tree.startOf path) (namesOf path) = .ok location ∧
      (endsWithSlash path = true → tree.isDirectory location = true) := by
  unfold locate
  simp only [bind_eq_ok_iff, checkPath_eq_ok_iff]
  constructor
  · rintro ⟨_, usable, reached, led, found⟩
    split at found
    · exact nomatch found
    · next plain =>
      obtain rfl : reached = location := Except.ok.inj found
      exact ⟨usable, led, by simpa using plain⟩
  · rintro ⟨usable, led, plain⟩
    refine ⟨(), usable, location, led, ?_⟩
    rw [if_neg (by simpa using plain)]
    rfl

/-- Where something stands at the address of a path, the path leads there. -/
theorem locate_of_address (leads : tree.address path = some location)
    (plain : endsWithSlash path = false) (found : (tree.find? location).isSome = true) :
    tree.locate path = .ok location := by
  obtain ⟨usable, above, name, directory, names, led, entered⟩ := address_eq_some_iff.mp leads
  refine locate_eq_ok_iff.mpr ⟨usable, ?_, by simp [plain]⟩
  rw [names, follow_append]
  exact bind_eq_ok_iff.mpr ⟨directory, led, step_eq_ok_iff.mpr ⟨entered, found⟩⟩

/-- The file under a path is the one at its address. -/
theorem fileAt_eq_ok_iff {bytes : Bytes} {mode : Nat} : tree.fileAt path = .ok (bytes, mode) ↔
    ∃ location, tree.address path = some location ∧ endsWithSlash path = false ∧
      tree.find? location = some (.file bytes mode) := by
  unfold fileAt
  rw [bind_eq_ok_iff]
  constructor
  · rintro ⟨location, located, found⟩
    obtain ⟨usable, led, plain⟩ := locate_eq_ok_iff.mp located
    split at found
    · next held heldMode stands =>
      obtain ⟨rfl, rfl⟩ : held = bytes ∧ heldMode = mode := by simpa using Except.ok.inj found
      have noDirectory : tree.isDirectory location = false := by simp [isDirectory, stands]
      refine ⟨location, address_eq_some_iff.mpr ⟨usable, ?_⟩,
        by simpa [noDirectory] using plain, stands⟩
      rcases List.eq_nil_or_concat (namesOf path) with none | ⟨above, name, names⟩
      · rw [none, startOf_of_no_names usable none] at led
        obtain rfl : [] = location := Except.ok.inj led
        exact nomatch stands
      · rw [List.concat_eq_append] at names
        rw [names, follow_append] at led
        obtain ⟨directory, led, stepped⟩ := bind_eq_ok_iff.mp led
        exact ⟨above, name, directory, names, led, (step_eq_ok_iff.mp stepped).1⟩
    · exact nomatch found
    · exact nomatch found
  · rintro ⟨location, leads, plain, stands⟩
    have found : (tree.find? location).isSome = true := by rw [stands]; rfl
    exact ⟨location, locate_of_address leads plain found, by rw [stands]; rfl⟩

/-- A file is read or refused as its mode says. -/
theorem read_of_fileAt {bytes : Bytes} {mode : Nat} (found : tree.fileAt path = .ok (bytes, mode)) :
    tree.read path = if tree.mayRead mode then .ok bytes else .error .permissionDenied := by
  unfold read
  rw [found]
  rfl

/-- What is read under a path is the file there, if it may be read. -/
theorem read_eq_ok_iff {bytes : Bytes} : tree.read path = .ok bytes ↔
    ∃ mode, tree.fileAt path = .ok (bytes, mode) ∧ tree.mayRead mode = true := by
  constructor
  · intro present
    obtain ⟨⟨held, mode⟩, found, -⟩ := bind_eq_ok_iff.mp present
    rw [read_of_fileAt found] at present
    split at present
    · next readable => exact ⟨mode, Except.ok.inj present ▸ found, readable⟩
    · cases present
  · rintro ⟨mode, found, readable⟩
    rw [read_of_fileAt found, if_pos readable]

/-- The bytes of the file that a path leads to, whether or not they may be read. -/
def bytesAt (tree : FileTree) (path : String) : Except Cause Bytes := (tree.fileAt path).map (·.1)

theorem bytesAt_eq_ok_iff {bytes : Bytes} :
    tree.bytesAt path = .ok bytes ↔ ∃ mode, tree.fileAt path = .ok (bytes, mode) := by
  unfold bytesAt
  cases tree.fileAt path with
  | error cause => simp [Except.map]
  | ok found => simp [Except.map, Prod.ext_iff]

/-- A path that leads to a file does not end with a slash. -/
theorem endsWithSlash_of_bytesAt {bytes : Bytes} (held : tree.bytesAt path = .ok bytes) :
    endsWithSlash path = false := by
  obtain ⟨mode, found⟩ := bytesAt_eq_ok_iff.mp held
  obtain ⟨-, -, plain, -⟩ := fileAt_eq_ok_iff.mp found
  exact plain

theorem bytesAt_of_same_address {left right : String} {bytes : Bytes}
    (same : tree.address left = tree.address right) (plain : endsWithSlash left = false)
    (held : tree.bytesAt right = .ok bytes) : tree.bytesAt left = .ok bytes := by
  obtain ⟨mode, found⟩ := bytesAt_eq_ok_iff.mp held
  obtain ⟨location, leads, -, stands⟩ := fileAt_eq_ok_iff.mp found
  exact bytesAt_eq_ok_iff.mpr
    ⟨mode, fileAt_eq_ok_iff.mpr ⟨location, same.trans leads, plain, stands⟩⟩

/-- Nothing is found under a path at whose address nothing stands. -/
theorem read_eq_notFound (leads : tree.address path = some location)
    (free : tree.find? location = none) : tree.read path = .error .notFound := by
  obtain ⟨usable, above, name, directory, names, led, entered⟩ := address_eq_some_iff.mp leads
  have missing : tree.follow (tree.startOf path) (namesOf path) = .error .notFound := by
    rw [names, follow_append, led]
    change tree.step directory name = .error .notFound
    unfold step
    rw [entered]
    change (if (tree.find? location).isSome then _ else _) = Except.error Cause.notFound
    rw [free]
    rfl
  have passed : checkPath path = .ok () := checkPath_eq_ok_iff.mpr usable
  rw [read, fileAt, locate, passed, missing]
  rfl

/-- The directory for the last name of a path exists. -/
def HasDirectory (tree : FileTree) (path : String) : Prop :=
  ∃ above name directory, namesOf path = above ++ [name] ∧
    tree.follow (tree.startOf path) above = .ok directory ∧ tree.isDirectory directory = true

section Agreement

variable (same : SameDirectories before after)
  (agree : ∀ location, before.address path = some location →
    after.find? location = before.find? location)

include same agree

/-- Trees with the same directories that agree on what stands at the address of a path have the
same file under the path, or none. -/
theorem fileAt_ok_congr (bytes : Bytes) (mode : Nat) :
    after.fileAt path = .ok (bytes, mode) ↔ before.fileAt path = .ok (bytes, mode) := by
  rw [fileAt_eq_ok_iff, fileAt_eq_ok_iff, same.address]
  constructor
  · rintro ⟨location, leads, plain, stands⟩
    exact ⟨location, leads, plain, (agree location leads).symm.trans stands⟩
  · rintro ⟨location, leads, plain, stands⟩
    exact ⟨location, leads, plain, (agree location leads).trans stands⟩

theorem bytesAt_ok_congr (bytes : Bytes) :
    after.bytesAt path = .ok bytes ↔ before.bytesAt path = .ok bytes := by
  simp only [bytesAt_eq_ok_iff, fileAt_ok_congr same agree]

/-- The same is read from it. -/
theorem read_ok_congr (bytes : Bytes) :
    after.read path = .ok bytes ↔ before.read path = .ok bytes := by
  simp only [read_eq_ok_iff, fileAt_ok_congr same agree, same.mayRead]

/-- If the directory for the file exists, they also agree on why there is none. -/
theorem fileAt_congr (within : before.HasDirectory path) :
    after.fileAt path = before.fileAt path := by
  obtain ⟨above, name, directory, names, led, stands⟩ := within
  rw [fileAt, fileAt, locate, locate, same.startOf, names, follow_append, follow_append, led,
    same.follow led stands]
  cases passed : checkPath path with
  | error cause => rfl
  | ok _ =>
    change (after.step directory name >>= _) >>= _ = (before.step directory name >>= _) >>= _
    rw [step, step, same.enter]
    cases entered : before.enter directory name with
    | error cause => rfl
    | ok next =>
      have leads : before.address path = some next :=
        address_eq_some_iff.mpr ⟨checkPath_eq_ok_iff.mp passed, above, name, directory, names, led,
          entered⟩
      change ((if (after.find? next).isSome then pure next else throw .notFound :
          Except Cause Location) >>= _) >>= _ =
        ((if (before.find? next).isSome then pure next else throw .notFound :
          Except Cause Location) >>= _) >>= _
      rw [agree next leads]
      cases held : before.find? next with
      | none => rfl
      | some entry =>
        simp only [Option.isSome_some, if_true, pure_bind, same.directories]
        cases slashed : endsWithSlash path && !before.isDirectory next with
        | true => simp only [if_true]; rfl
        | false => simp only [Bool.false_eq_true, if_false, pure_bind, agree next leads]

/-- And on why it cannot be read. -/
theorem read_congr (within : before.HasDirectory path) : after.read path = before.read path := by
  simp only [read, fileAt_congr same agree within, same.mayRead]

end Agreement

end Addresses

end FileTree

end ProjectScribe.Storage
