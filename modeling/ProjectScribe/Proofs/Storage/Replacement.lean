import Mathlib.Data.List.Nodup
import Mathlib.Data.List.Perm.Subperm
import ProjectScribe.Proofs.Storage.Suffixes
import ProjectScribe.Storage.WriteBack

/-!
# What writing a file back changes

Carried out step by step, a task that writes a file either leaves the tree exactly as it was, or
leaves the new content under the path, the old one under the path of the backup if there was one,
and everything else as it was. The scratch file is gone in every case.

The one dangerous moment is after the old file was moved: were the new one refused then, nothing
would stand under the path. It is not refused, because a path that led to a file leads to the same
location when that file is gone.
-/
namespace ProjectScribe.Storage

namespace FileTree

variable {tree before after : FileTree} {location source target directory : Location}
  {path output : String} {bytes : Bytes} {mode : Nat}

section SameDirectories

theorem ne_top_of_not_isDirectory (free : tree.isDirectory location = false) : location ≠ [] := by
  rintro rfl
  exact nomatch free

/-- A file put where no directory stands leaves the directories as they are. -/
theorem sameDirectories_put (free : tree.isDirectory location = false) (bytes : Bytes)
    (mode : Nat) : SameDirectories tree (tree.put location (.file bytes mode)) := by
  refine ⟨rfl, rfl, fun other => ?_⟩
  rw [isDirectory, find?_put (ne_top_of_not_isDirectory free)]
  split
  · next same => rw [same, free]; rfl
  · rfl

/-- A file moved to where no directory stands leaves the directories as they are. -/
theorem sameDirectories_move (stands : tree.find? source = some (.file bytes mode))
    (free : tree.isDirectory target = false) : SameDirectories tree (tree.move source target) := by
  have noDirectory : tree.isDirectory source = false := by simp [isDirectory, stands]
  refine ⟨by rw [move, stands]; rfl, by rw [move, stands]; rfl, fun other => ?_⟩
  rw [isDirectory, find?_move stands (ne_top_of_not_isDirectory noDirectory)
    (ne_top_of_not_isDirectory free)]
  split
  · next same => rw [same, free]; rfl
  · split
    · next same => rw [same, noDirectory]; rfl
    · rfl

/-- Whether a file can be put under a path depends on the directories alone. -/
theorem SameDirectories.slot_eq_ok_iff (same : SameDirectories before after) :
    after.slot path = .ok location ↔ before.slot path = .ok location := by
  rw [FileTree.slot_eq_ok_iff, FileTree.slot_eq_ok_iff, same.address, same.directories]

theorem slotFor_eq_ok_iff : tree.slotFor path = .ok location ↔ tree.slot path = .ok location := by
  unfold slotFor
  cases tree.slot path <;> simp

theorem directoryFor_eq_ok_iff : tree.directoryFor path = .ok directory ↔
    tree.locate (Path.directory path) = .ok directory ∧ tree.isDirectory directory = true := by
  unfold directoryFor
  cases tree.locate (Path.directory path) with
  | error cause => simp
  | ok located =>
    dsimp only
    split
    · next stands =>
      constructor
      · intro same
        obtain rfl : located = directory := Except.ok.inj same
        exact ⟨rfl, stands⟩
      · rintro ⟨same, -⟩
        exact congrArg Except.ok (Except.ok.inj same)
    · next absent =>
      constructor
      · intro failed
        exact nomatch failed
      · rintro ⟨same, stands⟩
        exact absurd (Except.ok.inj same ▸ stands) absent

/-- Whether a scratch file can be made depends on the directories alone. -/
theorem SameDirectories.directoryFor (same : SameDirectories before after)
    (found : before.directoryFor path = .ok directory) :
    after.directoryFor path = .ok directory := by
  rw [directoryFor_eq_ok_iff, locate_eq_ok_iff] at found ⊢
  obtain ⟨⟨usable, led, -⟩, stands⟩ := found
  rw [same.startOf, same.directories]
  exact ⟨⟨usable, same.follow led stands, fun _ => stands⟩, stands⟩

end SameDirectories

section Scratch

theorem scratchName_injective {m n : Nat} (same : scratchName m = scratchName n) : m = n := by
  have lengths := congrArg (fun name => name.toList.length) same
  simpa [scratchName] using lengths

/-- Nothing stands where a scratch file is made. -/
theorem find?_scratchLocation (tree : FileTree) (directory : Location) :
    tree.find? (tree.scratchLocation directory) = none := by
  unfold scratchLocation
  dsimp only
  cases chosen : (List.range (tree.entries.length + 1)).find? fun n =>
      tree.isFree directory (scratchName n) with
  | some n =>
    have free := List.find?_some chosen
    exact Option.isNone_iff_eq_none.mp free
  | none =>
    exfalso
    -- Else each of the names would be taken by an entry of its own, and there are more names.
    have taken : (List.range (tree.entries.length + 1)).map
        (fun n => directory ++ [scratchName n]) ⊆ tree.entries.map (·.1) := by
      intro held listed
      obtain ⟨n, counted, rfl⟩ := List.mem_map.mp listed
      have stands := List.find?_eq_none.mp chosen n counted
      by_contra absent
      refine stands (Option.isNone_iff_eq_none.mpr ?_)
      simp only [List.mem_map, not_exists, not_and] at absent
      simpa [find?] using fun other entry entered => absent (other, entry) entered
    have distinct : ((List.range (tree.entries.length + 1)).map
        fun n => directory ++ [scratchName n]).Nodup := by
      refine List.nodup_range.map fun m n same => scratchName_injective ?_
      exact List.head_eq_of_cons_eq (List.append_cancel_left same)
    have bound := (List.subperm_of_subset distinct taken).length_le
    simp only [List.length_map, List.length_range] at bound
    omega

/-- A scratch file does not stand where a backup does. -/
theorem scratchLocation_ne_backup {kept : Location} (leads : tree.address output = some location)
    (plain : endsWithSlash output = false)
    (leadsBehind : tree.address (backupPath output) = some kept) (directory : Location) :
    tree.scratchLocation directory ≠ kept := by
  obtain ⟨above, name, rfl, -⟩ := address_append leads plain (by decide) (by decide) leadsBehind
  intro same
  have sameName := congrArg List.getLast? same
  simp only [scratchLocation, List.getLast?_append, List.getLast?_singleton, Option.some_or,
    Option.some.injEq] at sameName
  -- No scratch file has an s in its name.
  have within : 's' ∈ (name ++ backupSuffix).toList := by
    rw [String.toList_append]
    exact List.mem_append_right _ (by decide)
  rw [← sameName] at within
  simp [scratchName] at within

end Scratch

/-- Whether a tree takes a new content for the file with a path: there is a directory for the
scratch file and a place for the file, and if there is a file already, it may be read and there is a
place for its backup. -/
structure Accepts (tree : FileTree) (output : String) : Prop where
  directory : ∃ directory, tree.directoryFor output = .ok directory
  place : ∃ location, tree.slot output = .ok location
  readable : ∀ old mode, tree.fileAt output = .ok (old, mode) → tree.mayRead mode = true
  backup : ∀ old, tree.read output = .ok old → ∃ kept, tree.slot (backupPath output) = .ok kept

/-- A path at which a file can be put leads to a file or to nothing. -/
theorem fileAt_of_slot (place : tree.slot path = .ok location) :
    tree.find? location = none ∨ ∃ bytes mode, tree.fileAt path = .ok (bytes, mode) := by
  obtain ⟨leads, plain, open_⟩ := slot_eq_ok_iff.mp place
  cases held : tree.find? location with
  | none => exact .inl rfl
  | some entry =>
    cases entry with
    | directory => simp [isDirectory, held] at open_
    | file bytes mode =>
      exact .inr ⟨bytes, mode, fileAt_eq_ok_iff.mpr ⟨location, leads, plain, held⟩⟩

/-- Where a new content is taken there is no file, or one that is read. -/
theorem Accepts.read (accepts : Accepts tree output) :
    tree.read output = .error .notFound ∨ ∃ old, tree.read output = .ok old := by
  obtain ⟨location, place⟩ := accepts.place
  rcases fileAt_of_slot place with vacant | ⟨old, mode, found⟩
  · exact .inl (read_eq_notFound (slot_eq_ok_iff.mp place).1 vacant)
  · exact .inr ⟨old, read_eq_ok_iff.mpr ⟨mode, found, accepts.readable old mode found⟩⟩

/-- Where a file can be put but none is found, nothing stands. -/
theorem vacant_of_notFound (place : tree.slot path = .ok location)
    (absent : tree.read path = .error .notFound) : tree.find? location = none := by
  rcases fileAt_of_slot place with vacant | ⟨bytes, mode, found⟩
  · exact vacant
  · rw [read_of_fileAt found] at absent
    split at absent <;> cases absent

theorem existing?_of_read (present : tree.read path = .ok bytes) :
    tree.existing? path = .ok (some bytes) := by
  rw [existing?, present]

theorem existing?_of_notFound (absent : tree.read path = .error .notFound) :
    tree.existing? path = .ok none := by
  rw [existing?, absent]

theorem existing?_eq_ok {old : Option Bytes} (known : tree.existing? path = .ok old) :
    (old = none ∧ tree.read path = .error .notFound) ∨
      ∃ bytes, old = some bytes ∧ tree.read path = .ok bytes := by
  unfold existing? at known
  split at known
  · next bytes present => exact .inr ⟨bytes, (Except.ok.inj known).symm, present⟩
  · next absent => exact .inl ⟨(Except.ok.inj known).symm, absent⟩
  · exact nomatch known

/-- A file that was looked at could be read. -/
theorem readable_of_existing? {old : Option Bytes} (known : tree.existing? path = .ok old)
    (found : tree.fileAt path = .ok (bytes, mode)) : tree.mayRead mode = true := by
  by_contra unreadable
  rw [existing?, read_of_fileAt found, if_neg unreadable] at known
  cases known

/-- What a tree became in which a file was written under a path: a new one, or one in place of an
old one, which is kept then. -/
inductive Written (before : FileTree) (output : String) (content : Bytes) (mode : Nat) :
    Option String → FileTree → Prop where
  | new {location : Location} {after : FileTree}
      (leads : before.slot output = .ok location)
      (absent : before.find? location = none)
      (home : after.home = before.home)
      (rights : after.isPrivileged = before.isPrivileged)
      (stands : after.find? location = some (.file content mode))
      (others : ∀ other, other ≠ location → after.find? other = before.find? other) :
      Written before output content mode none after
  | replaced {location kept : Location} {old : Bytes} {oldMode : Nat} {after : FileTree}
      (leads : before.slot output = .ok location)
      (stood : before.find? location = some (.file old oldMode))
      (leadsBehind : before.slot (backupPath output) = .ok kept)
      (apart : kept ≠ location)
      (home : after.home = before.home)
      (rights : after.isPrivileged = before.isPrivileged)
      (stands : after.find? location = some (.file content mode))
      (keeps : after.find? kept = some (.file old oldMode))
      (others : ∀ other, other ≠ location → other ≠ kept →
        after.find? other = before.find? other) :
      Written before output content mode (some (backupPath output)) after

theorem Written.backup {content : Bytes}
    (written : Written before output content mode (some path) after) :
    ∃ kept, before.slot (backupPath output) = .ok kept := by
  cases written with
  | replaced _ _ leadsBehind => exact ⟨_, leadsBehind⟩

section Written

variable {content : Bytes} {backup : Option String}
  (written : Written before output content mode backup after)

include written

theorem Written.place : ∃ location, before.slot output = .ok location := by
  cases written with
  | new leads => exact ⟨_, leads⟩
  | replaced leads => exact ⟨_, leads⟩

/-- Writing a file leaves the directories as they are. -/
theorem Written.sameDirectories : SameDirectories before after := by
  cases written with
  | @new location _ leads absent home rights stands others =>
    refine ⟨home, rights, fun other => ?_⟩
    by_cases here : other = location
    · simp [here, isDirectory, absent, stands]
    · rw [isDirectory, isDirectory, others other here]
  | @replaced location kept _ _ _ leads stood leadsBehind apart home rights stands keeps others =>
    refine ⟨home, rights, fun other => ?_⟩
    by_cases here : other = location
    · simp [here, isDirectory, stood, stands]
    · by_cases behind : other = kept
      · have open_ := (slot_eq_ok_iff.mp leadsBehind).2.2
        rw [behind, open_]
        simp [isDirectory, keeps]
      · rw [isDirectory, isDirectory, others other here behind]

/-- What was written is there with its mode. -/
theorem Written.fileAt_output : after.fileAt output = .ok (content, mode) := by
  have address := written.sameDirectories.address output
  cases written with
  | new leads _ _ _ stands =>
    obtain ⟨leads, plain, -⟩ := slot_eq_ok_iff.mp leads
    exact fileAt_eq_ok_iff.mpr ⟨_, address.trans leads, plain, stands⟩
  | replaced leads _ _ _ _ _ stands =>
    obtain ⟨leads, plain, -⟩ := slot_eq_ok_iff.mp leads
    exact fileAt_eq_ok_iff.mpr ⟨_, address.trans leads, plain, stands⟩

/-- Everything stands as before except at the addresses of the file and of its backup. -/
theorem Written.find?_of_ne {other : Location} (apart : before.address output ≠ some other)
    (apartBehind : before.address (backupPath output) ≠ some other) :
    after.find? other = before.find? other := by
  cases written with
  | new leads _ _ _ _ others =>
    obtain ⟨leads, -, -⟩ := slot_eq_ok_iff.mp leads
    refine others other fun same => apart ?_
    rw [leads, same]
  | replaced leads _ leadsBehind _ _ _ _ _ others =>
    obtain ⟨leads, -, -⟩ := slot_eq_ok_iff.mp leads
    obtain ⟨leadsBehind, -, -⟩ := slot_eq_ok_iff.mp leadsBehind
    refine others other (fun same => apart ?_) fun same => apartBehind ?_
    · rw [leads, same]
    · rw [leadsBehind, same]

end Written

/-- What a task that writes a content into the file with a path gives and leaves. It is refused and
leaves the tree as it was, or the content is there already and the tree is left as it was, or the
file was written. -/
inductive WriteEffect (before : FileTree) (output : String) (content : Bytes) (mode : Nat) :
    Except AccessError WriteOutcome × FileTree → Prop where
  | refused (error : AccessError) (differs : before.read output ≠ .ok content)
      (refuses : ¬ Accepts before output) :
      WriteEffect before output content mode (.error error, before)
  | unchanged (present : before.read output = .ok content) :
      WriteEffect before output content mode (.ok .unchanged, before)
  | written {backup : Option String} {after : FileTree}
      (differs : before.read output ≠ .ok content) (accepts : Accepts before output)
      (written : Written before output content mode backup after) :
      WriteEffect before output content mode (.ok (.written backup), after)

/-- A tree with a new content in a scratch file. -/
structure Prepared (tree prepared : FileTree) (scratch : Location) (content : Bytes) (mode : Nat) :
    Prop where
  free : tree.find? scratch = none
  same : SameDirectories tree prepared
  held : prepared.find? scratch = some (.file content mode)
  others : ∀ other, other ≠ scratch → prepared.find? other = tree.find? other

theorem prepared_put {scratch : Location} (free : tree.find? scratch = none) (content : Bytes)
    (mode : Nat) : Prepared tree (tree.put scratch (.file content mode)) scratch content mode := by
  have noDirectory : tree.isDirectory scratch = false := by simp [isDirectory, free]
  have below := ne_top_of_not_isDirectory noDirectory
  refine ⟨free, sameDirectories_put noDirectory content mode, ?_, fun other apart => ?_⟩
  · rw [find?_put below, if_pos rfl]
  · rw [find?_put below, if_neg apart]

/-- What stood before the scratch file was made stands elsewhere. -/
theorem Prepared.ne_scratch {prepared : FileTree} {scratch : Location} {content : Bytes}
    {contentMode : Nat} {entry : Entry}
    (ready : Prepared tree prepared scratch content contentMode)
    (stood : tree.find? location = some entry) : location ≠ scratch := by
  rintro rfl
  rw [ready.free] at stood
  exact nomatch stood

/-- A new content in a scratch file stays there while another file is moved. -/
theorem Prepared.move {prepared : FileTree} {scratch : Location} {content : Bytes}
    {contentMode : Nat} (ready : Prepared tree prepared scratch content contentMode)
    (stood : tree.find? source = some (.file bytes mode)) (open_ : tree.isDirectory target = false)
    (apart : target ≠ scratch) :
    Prepared (tree.move source target) (prepared.move source target) scratch content
      contentMode := by
  have apartSource := ready.ne_scratch stood
  have noDirectory : tree.isDirectory source = false := by simp [isDirectory, stood]
  have stands := (ready.others source apartSource).trans stood
  have below := ne_top_of_not_isDirectory noDirectory
  have belowTarget := ne_top_of_not_isDirectory open_
  refine ⟨?_, ?_, ?_, fun other away => ?_⟩
  · rw [find?_move stood below belowTarget, if_neg apart.symm, if_neg apartSource.symm, ready.free]
  · refine (sameDirectories_move stood open_).symm.trans (ready.same.trans ?_)
    rw [← ready.same.directories] at open_
    exact sameDirectories_move stands open_
  · rw [find?_move stands below belowTarget, if_neg apart.symm, if_neg apartSource.symm, ready.held]
  · rw [find?_move stands below belowTarget, find?_move stood below belowTarget,
      ready.others other away]

/-- A scratch file that is moved to a location stands there, and no longer at its own. -/
theorem Prepared.placed {prepared : FileTree} {scratch : Location} {content : Bytes}
    (ready : Prepared tree prepared scratch content mode)
    (open_ : tree.isDirectory target = false) :
    SameDirectories tree (prepared.move scratch target) ∧
      (prepared.move scratch target).find? target = some (.file content mode) ∧
      ∀ other, other ≠ target →
        (prepared.move scratch target).find? other = tree.find? other := by
  have noDirectory : prepared.isDirectory scratch = false := by simp [isDirectory, ready.held]
  have below := ne_top_of_not_isDirectory noDirectory
  have belowTarget := ne_top_of_not_isDirectory open_
  rw [← ready.same.directories] at open_
  refine ⟨ready.same.trans (sameDirectories_move ready.held open_), ?_, fun other apart => ?_⟩
  · rw [find?_move ready.held below belowTarget, if_pos rfl]
  · rw [find?_move ready.held below belowTarget, if_neg apart]
    split
    · next same => rw [same, ready.free]
    · next away => exact ready.others other away

/-- A file that is refused for lack of a place had none before the tree was prepared. -/
theorem Prepared.noPlace {prepared : FileTree} {scratch : Location} {content : Bytes}
    {error : AccessError} (ready : Prepared tree prepared scratch content mode)
    (refused : prepared.slotFor path = .error error) :
    ¬ ∃ location, tree.slot path = .ok location := by
  rintro ⟨location, place⟩
  rw [← ready.same.slot_eq_ok_iff, ← slotFor_eq_ok_iff, refused] at place
  exact nomatch place

end FileTree

namespace FileTask

open FileTree

variable {tree prepared : FileTree} {scratch : Location} {output : String} {content : Bytes}
  {mode : Nat}

theorem perform_createScratch (output : String) (tree : FileTree) :
    (createScratch output).perform tree =
      match tree.directoryFor output with
      | .error error => (.error error, tree)
      | .ok directory =>
        (.ok (tree.scratchLocation directory),
          tree.put (tree.scratchLocation directory) (.file [] scratchMode)) := by
  rw [createScratch, perform_bind, perform_ask]
  cases tree.directoryFor output <;> rfl

theorem perform_moveTo (source : Location) (path : String) (tree : FileTree) :
    (moveTo source path).perform tree =
      match tree.slotFor path with
      | .error error => (.error error, tree)
      | .ok target => (.ok (), tree.move source target) := by
  rw [moveTo, perform_bind, perform_ask]
  cases tree.slotFor path <;> rfl

theorem perform_setMode (present : tree.find? scratch = some (.file content mode)) (other : Nat) :
    (setMode scratch other).perform tree = (.ok (), tree.put scratch (.file content other)) := by
  rw [setMode, perform_modify, present]

theorem perform_keepOld {source : Location} (leads : tree.locate output = .ok source) :
    (keepOld output true).perform tree =
      match tree.slotFor (backupPath output) with
      | .error error => (.error error, tree)
      | .ok kept => (.ok (some (backupPath output)), tree.move source kept) := by
  rw [keepOld, perform_bind, perform_ask, sourceFor, leads]
  dsimp only
  rw [perform_bind, perform_moveTo]
  cases tree.slotFor (backupPath output) <;> rfl

/-- What a task gives and leaves that moves a scratch file to the file with a path. It is refused
and leaves the tree as it was, because there is no place for one of the files, or the file was
written. -/
inductive Placed (tree prepared : FileTree) (output : String) (content : Bytes) (mode : Nat)
    (place : String) (backup : Option String) :
    Except AccessError WriteOutcome × FileTree → Prop where
  | refused (error : AccessError) (noPlace : ¬ ∃ location, tree.slot place = .ok location) :
      Placed tree prepared output content mode place backup (.error error, prepared)
  | placed {after : FileTree} (written : Written tree output content mode backup after) :
      Placed tree prepared output content mode place backup (.ok (.written backup), after)

section Places

variable (ready : Prepared tree prepared scratch content mode)

include ready

/-- A new file gets its place, or the scratch file stays where it is. -/
theorem takePlace_new (absent : tree.read output = .error .notFound) :
    Placed tree prepared output content mode output none
      ((takePlace scratch output false).perform prepared) := by
  rw [takePlace, keepOld, pure_bind, perform_bind, perform_moveTo]
  cases slot : prepared.slotFor output with
  | error error => exact .refused error (ready.noPlace slot)
  | ok target =>
    rw [slotFor_eq_ok_iff, ready.same.slot_eq_ok_iff] at slot
    obtain ⟨same, stands, others⟩ := ready.placed (slot_eq_ok_iff.mp slot).2.2
    exact .placed (.new slot (vacant_of_notFound slot absent) same.home same.rights stands others)

/-- A file takes the place of an old one, or the scratch file and the old one stay where they
are. -/
theorem takePlace_replaced {old : Bytes} (present : tree.read output = .ok old)
    (named : ∃ directory, scratch = tree.scratchLocation directory) :
    Placed tree prepared output content mode (backupPath output) (some (backupPath output))
      ((takePlace scratch output true).perform prepared) := by
  obtain ⟨oldMode, found, -⟩ := read_eq_ok_iff.mp present
  obtain ⟨location, leads, plain, stood⟩ := fileAt_eq_ok_iff.mp found
  have fileAtOutput : tree.isDirectory location = false := by simp [isDirectory, stood]
  -- The scratch file does not get in the way of the old one.
  have stands : prepared.find? location = some (.file old oldMode) :=
    (ready.others location (ready.ne_scratch stood)).trans stood
  have located : prepared.locate output = .ok location :=
    locate_of_address ((ready.same.address output).trans leads) plain (by rw [stands]; rfl)
  rw [takePlace, perform_bind, perform_keepOld located]
  cases slot : prepared.slotFor (backupPath output) with
  | error error => exact .refused error (ready.noPlace slot)
  | ok kept =>
    rw [slotFor_eq_ok_iff, ready.same.slot_eq_ok_iff] at slot
    obtain ⟨leadsBehind, -, open_⟩ := slot_eq_ok_iff.mp slot
    have apart : kept ≠ location :=
      address_append_ne leads plain (by decide) (by decide) leadsBehind
    have apartScratch : kept ≠ scratch := by
      obtain ⟨directory, rfl⟩ := named
      exact (scratchLocation_ne_backup leads plain leadsBehind directory).symm
    -- With the old file gone, the path leads to the same location, so that the new one is taken.
    have aside := ready.move stood open_ apartScratch
    have sameAside := sameDirectories_move stood open_
    have place : (prepared.move location kept).slot output = .ok location := by
      rw [aside.same.slot_eq_ok_iff, sameAside.slot_eq_ok_iff]
      exact slot_eq_ok_iff.mpr ⟨leads, plain, fileAtOutput⟩
    have vacant : (tree.move location kept).isDirectory location = false := by
      rw [sameAside.directories, fileAtOutput]
    obtain ⟨same, stands, others⟩ := aside.placed vacant
    dsimp only
    rw [perform_bind, perform_moveTo, slotFor_eq_ok_iff.mpr place]
    have below := ne_top_of_not_isDirectory fileAtOutput
    have belowKept := ne_top_of_not_isDirectory open_
    have home := same.home.trans sameAside.home
    have rights := same.rights.trans sameAside.rights
    refine .placed (.replaced (slot_eq_ok_iff.mpr ⟨leads, plain, fileAtOutput⟩) stood slot apart
      home rights stands ?_ fun other away awayKept => ?_)
    · rw [others kept apart, find?_move stood below belowKept, if_pos rfl]
    · rw [others other away, find?_move stood below belowKept, if_neg awayKept, if_neg away]

end Places

/-- The scratch file is filled, gets its mode and takes its place, or is removed. -/
theorem perform_writeScratch (free : tree.find? scratch = none) (old : Option Bytes) :
    (removingOnFailure scratch do
      fill scratch content
      setMode scratch mode
      takePlace scratch output old.isSome).perform (tree.put scratch (.file [] scratchMode)) =
      match (takePlace scratch output old.isSome).perform (tree.put scratch (.file content mode))
        with
      | (.ok outcome, after) => (.ok outcome, after)
      | (.error error, after) => (.error error, after.remove scratch) := by
  have held := (prepared_put free content scratchMode).held
  rw [perform_removingOnFailure, perform_bind, fill, perform_modify, put_put]
  dsimp only
  rw [perform_bind, perform_setMode held, put_put]
  dsimp only
  rcases (takePlace scratch output old.isSome).perform (tree.put scratch (.file content mode))
    with ⟨_ | _, after⟩ <;> rfl

/-- A file with another content is replaced, or its tree is left as it was because it does not take
the new one. -/
theorem writeScratch_effect {old : Option Bytes} (known : tree.existing? output = .ok old)
    (differs : tree.read output ≠ .ok content) (mode : Nat) :
    WriteEffect tree output content mode
      ((writeScratch output content mode old.isSome).perform tree) := by
  rw [writeScratch, perform_bind, perform_createScratch]
  cases made : tree.directoryFor output with
  | error error =>
    refine .refused error differs fun accepts => ?_
    obtain ⟨directory, found⟩ := accepts.directory
    rw [made] at found
    exact nomatch found
  | ok directory =>
    have free := find?_scratchLocation tree directory
    have ready := prepared_put free content mode
    dsimp only
    rw [perform_writeScratch free old]
    rcases existing?_eq_ok known with ⟨rfl, absent⟩ | ⟨bytes, rfl, present⟩
    · have placed := takePlace_new ready absent
      rw [Option.isSome_none]
      generalize (takePlace (tree.scratchLocation directory) output false).perform _ = performed
        at placed
      cases placed with
      | refused error noPlace =>
        dsimp only
        rw [remove_put free]
        exact .refused error differs fun accepts => noPlace accepts.place
      | placed written =>
        refine .written differs ⟨⟨directory, made⟩, written.place,
          fun _ _ => readable_of_existing? known, fun bytes present => ?_⟩ written
        rw [absent] at present
        exact nomatch present
    · have placed := takePlace_replaced ready present ⟨directory, rfl⟩
      rw [Option.isSome_some]
      generalize (takePlace (tree.scratchLocation directory) output true).perform _ = performed
        at placed
      cases placed with
      | refused error noPlace =>
        dsimp only
        rw [remove_put free]
        exact .refused error differs fun accepts => noPlace (accepts.backup bytes present)
      | placed written =>
        exact .written differs ⟨⟨directory, made⟩, written.place,
          fun _ _ => readable_of_existing? known, fun _ _ => written.backup⟩ written

/-- Writing a file either changes nothing and is done exactly if the file has the content already,
or is refused and changes nothing, or leaves the file written and everything else as it was. -/
theorem writeIfChanged_effect (output : String) (content : Bytes) (mode : Option Nat)
    (tree : FileTree) :
    WriteEffect tree output content (effectiveMode mode)
      ((writeIfChanged output content mode).perform tree) := by
  rw [writeIfChanged, perform_bind, perform_ask]
  cases known : tree.existing? output with
  | error error =>
    refine .refused error (fun present => ?_) fun accepts => ?_
    · rw [existing?_of_read present] at known
      exact nomatch known
    · rcases accepts.read with absent | ⟨bytes, present⟩
      · rw [existing?_of_notFound absent] at known
        exact nomatch known
      · rw [existing?_of_read present] at known
        exact nomatch known
  | ok old =>
    dsimp only
    by_cases same : old = some content
    · rw [if_pos same]
      rcases existing?_eq_ok known with ⟨rfl, absent⟩ | ⟨bytes, rfl, present⟩
      · exact nomatch same
      · exact .unchanged (Option.some.inj same ▸ present)
    · rw [if_neg same]
      refine writeScratch_effect known (fun present => ?_) (effectiveMode mode)
      rw [existing?_of_read present] at known
      exact same (Except.ok.inj known).symm

end FileTask

end ProjectScribe.Storage
