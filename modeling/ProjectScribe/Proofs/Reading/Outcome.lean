import Mathlib.Data.List.Basic
import ProjectScribe.Proofs.FilterTree.Growth
import ProjectScribe.Proofs.Reading.LeftOut

/-!
# What becomes of files

A file that a project file states is filed in a node of the tree, or it is left out, of which a
record is kept, or nothing becomes of it. A reading accounts for such outcomes if it adds to every
node the files that are filed there and keeps the records of those that are left out, all in
order, and nothing else. Steps in a row account for their outcomes in a row.
-/
namespace ProjectScribe.Reading

/-- What becomes of a file. -/
inductive Outcome where
  | nothing
  | leftOut (path : String) (reason : SkipReason)
  | filed (place : Nat) (file : FileEntry)
deriving DecidableEq, Repr

namespace Outcome

/-- The entry of a file that is filed, and the place of its node. -/
def filed? : Outcome → Option (Nat × FileEntry)
  | filed place file => some (place, file)
  | _ => none

/-- The entry of a file that is filed in the node at a place. -/
def filedAt? (place : Nat) (outcome : Outcome) : Option FileEntry :=
  (outcome.filed?.filter (·.1 = place)).map (·.2)

/-- The record of a file that is left out. -/
def leftOut? : Outcome → Option (String × SkipReason)
  | leftOut path reason => some (path, reason)
  | _ => none

/-- A file is filed or left out unless nothing becomes of it, and never both. -/
theorem filed_or_leftOut (outcome : Outcome) :
    (if outcome.filed?.isSome then 1 else 0) + (if outcome.leftOut?.isSome then 1 else 0) =
      if decide (outcome ≠ nothing) then 1 else 0 := by
  cases outcome with
  | nothing => rfl
  | leftOut path reason => rfl
  | filed place file => rfl

/-- There are as many filed files and files that are left out as files of which something
becomes. -/
theorem length_filed_add_leftOut (outcomes : List Outcome) :
    (outcomes.filterMap filed?).length + (outcomes.filterMap leftOut?).length =
      outcomes.countP (· ≠ nothing) := by
  rw [List.length_filterMap_eq_countP, List.length_filterMap_eq_countP]
  induction outcomes with
  | nil => rfl
  | cons outcome rest inductionHypothesis =>
    have one := filed_or_leftOut outcome
    simp only [List.countP_cons]
    omega

end Outcome

/-- A reading that accounts for outcomes when it changes a tree. -/
structure Accounts (tree : FilterTree) (reading : Reading FilterTree) (outcomes : List Outcome) :
    Prop where
  filed : ∀ place,
    reading.value.filesAt place = tree.filesAt place ++ outcomes.filterMap (·.filedAt? place)
  leftOut : leftOut reading.notes = outcomes.filterMap (·.leftOut?)

namespace Accounts

variable {tree : FilterTree} {reading : Reading FilterTree} {outcomes others : List Outcome}

/-- Two steps in a row account for the outcomes of both. -/
theorem bind {next : FilterTree → Reading FilterTree} (first : Accounts tree reading outcomes)
    (second : Accounts reading.value (next reading.value) others) :
    Accounts tree (reading >>= next) (outcomes ++ others) where
  filed := by
    intro place
    rw [Reported.value_bind, second.filed, first.filed, List.filterMap_append, List.append_assoc]
  leftOut := by
    rw [Reported.notes_bind, leftOut_append, first.leftOut, second.leftOut, List.filterMap_append]

/-- A quiet step in front changes nothing. -/
theorem afterQuiet {α : Type} {first : Reading α} {next : α → Reading FilterTree}
    (quiet : Quiet first) (accounts : Accounts tree (next first.value) outcomes) :
    Accounts tree (first >>= next) outcomes where
  filed := accounts.filed
  leftOut := by
    rw [Reported.notes_bind, leftOut_append, quiet, List.nil_append, accounts.leftOut]

/-- Where a tree has the files of another, readings account for the same. -/
theorem ofSame {between : FilterTree} (accounts : Accounts between reading outcomes)
    (same : ∀ place, between.filesAt place = tree.filesAt place) :
    Accounts tree reading outcomes where
  filed := by
    intro place
    rw [accounts.filed, same]
  leftOut := accounts.leftOut

/-- A quiet reading that leaves all files accounts for outcomes of which each is nothing. -/
theorem ofNothing (same : ∀ place, reading.value.filesAt place = tree.filesAt place)
    (quiet : Quiet reading) (nothing : ∀ outcome ∈ outcomes, outcome = .nothing) :
    Accounts tree reading outcomes where
  filed := by
    intro place
    have none : outcomes.filterMap (·.filedAt? place) = [] := by
      rw [List.filterMap_eq_nil_iff]
      intro outcome listed
      rw [nothing outcome listed]
      rfl
    rw [same, none, List.append_nil]
  leftOut := by
    have none : outcomes.filterMap (·.leftOut?) = [] := by
      rw [List.filterMap_eq_nil_iff]
      intro outcome listed
      rw [nothing outcome listed]
      rfl
    rw [none]
    exact quiet

/-- Outcomes that are nothing can be left out of the account. -/
theorem ofFilter {α : Type} {list : List α} {keep : α → Bool} {outcome : α → Outcome}
    (accounts : Accounts tree reading ((list.filter keep).map outcome))
    (nothing : ∀ a ∈ list, keep a = false → outcome a = .nothing) :
    Accounts tree reading (list.map outcome) := by
  have same : ∀ {β : Type} (view : Outcome → Option β), view .nothing = none →
      ((list.filter keep).map outcome).filterMap view = (list.map outcome).filterMap view := by
    intro β view empty
    rw [List.filterMap_map, List.filterMap_map, List.filterMap_filter]
    apply List.filterMap_congr
    intro a listed
    cases kept : keep a with
    | true => rfl
    | false => simp [nothing a listed kept, empty]
  refine ⟨fun place => ?_, ?_⟩
  · rw [accounts.filed, same _ rfl]
  · rw [accounts.leftOut, same _ rfl]

/-- A file that is added is filed at its place. -/
theorem addFile (tree : FilterTree) (place : Nat) (file : FileEntry) (inside : place < tree.size) :
    Accounts tree (pure (tree.addFile place file)) [.filed place file] where
  filed := by
    intro other
    rw [Reported.value_pure, tree.filesAt_addFile place other file inside]
    by_cases same : place = other
    · simp [Outcome.filedAt?, Outcome.filed?, same]
    · simp [Outcome.filedAt?, Outcome.filed?, same]
  leftOut := rfl

/-- A file of which a record is kept is left out. -/
theorem skip (tree : FilterTree) (path : String) (reason : SkipReason) :
    Accounts tree (Reported.note (.skipped path reason) >>= fun _ => pure tree)
      [.leftOut path reason] where
  filed := fun _ => (List.append_nil _).symm
  leftOut := rfl

end Accounts

section Totals

/-- Entries with places, taken place by place, are the entries in some order. -/
theorem perm_byPlace {α : Type} (entries : List (Nat × α)) (bound : Nat) :
    ((List.range bound).flatMap fun place => entries.filter (·.1 = place)).Perm
      (entries.filter (·.1 < bound)) := by
  induction bound with
  | zero => simp
  | succ bound inductionHypothesis =>
    rw [List.range_succ, List.flatMap_append, List.flatMap_singleton]
    have lower : (entries.filter (·.1 < bound + 1)).filter (·.1 < bound) =
        entries.filter (·.1 < bound) := by
      rw [List.filter_filter]
      apply List.filter_congr
      intro entry _
      simp only [← Bool.decide_and, decide_eq_decide]
      omega
    have last : (entries.filter (·.1 < bound + 1)).filter (fun entry => !decide (entry.1 < bound)) =
        entries.filter (·.1 = bound) := by
      rw [List.filter_filter]
      apply List.filter_congr
      intro entry _
      simp only [← decide_not, ← Bool.decide_and, decide_eq_decide]
      omega
    have parted := List.filter_append_perm (·.1 < bound) (entries.filter (·.1 < bound + 1))
    rw [lower, last] at parted
    exact (inductionHypothesis.append_right _).trans parted

/-- The files of a tree that holds at each place what is filed there are the filed files in some
order, with their places. -/
theorem placed_perm (tree : FilterTree) (outcomes : List Outcome)
    (filed : ∀ place, tree.filesAt place = outcomes.filterMap (·.filedAt? place)) :
    ((List.range tree.size).flatMap fun place => (tree.filesAt place).map (place, ·)).Perm
      (outcomes.filterMap (·.filed?)) := by
  have byPlace : ∀ place,
      tree.filesAt place = ((outcomes.filterMap (·.filed?)).filter (·.1 = place)).map (·.2) := by
    intro place
    rw [filed place, List.filter_filterMap, List.map_filterMap]
    rfl
  have entriesAt : ∀ place, (tree.filesAt place).map (place, ·) =
      (outcomes.filterMap (·.filed?)).filter (·.1 = place) := by
    intro place
    rw [byPlace, List.map_map]
    refine (List.map_congr_left fun entry kept => ?_).trans (List.map_id _)
    have here : entry.1 = place := by simpa using (List.mem_filter.mp kept).2
    exact Prod.ext here.symm rfl
  have inside : (outcomes.filterMap (·.filed?)).filter (·.1 < tree.size) =
      outcomes.filterMap (·.filed?) := by
    rw [List.filter_eq_self]
    intro entry listed
    by_contra outside
    have none := tree.filesAt_eq_nil entry.1 (by simpa using outside)
    rw [byPlace, List.map_eq_nil_iff, List.filter_eq_nil_iff] at none
    exact none entry listed (by simp)
  have perm := perm_byPlace (outcomes.filterMap (·.filed?)) tree.size
  rw [inside] at perm
  rwa [List.flatMap_congr fun place _ => entriesAt place]

/-- The files of such a tree are the filed files in some order. -/
theorem files_perm (tree : FilterTree) (outcomes : List Outcome)
    (filed : ∀ place, tree.filesAt place = outcomes.filterMap (·.filedAt? place)) :
    tree.files.Perm ((outcomes.filterMap (·.filed?)).map (·.2)) := by
  have perm := (placed_perm tree outcomes filed).map (·.2)
  have unplaced : ∀ place, ((tree.filesAt place).map (place, ·)).map (·.2) = tree.filesAt place :=
    fun place => by rw [List.map_map]; exact List.map_id _
  rwa [List.map_flatMap, List.flatMap_congr fun place _ => unplaced place,
    ← FilterTree.files_eq_flatMap] at perm

/-- A tree that is filled from the empty one has the files that are filed, and no others. -/
theorem Accounts.mem_files_iff {reading : Reading FilterTree} {outcomes : List Outcome}
    (accounts : Accounts .empty reading outcomes) {file : FileEntry} :
    file ∈ reading.value.files ↔ ∃ place, .filed place file ∈ outcomes := by
  have filed : ∀ place, reading.value.filesAt place = outcomes.filterMap (·.filedAt? place) := by
    intro place
    rw [accounts.filed, FilterTree.filesAt_empty, List.nil_append]
  rw [(files_perm _ outcomes filed).mem_iff, List.mem_map]
  constructor
  · rintro ⟨entry, kept, rfl⟩
    obtain ⟨outcome, among, same⟩ := List.mem_filterMap.mp kept
    cases outcome with
    | nothing | leftOut => cases same
    | filed place file =>
      cases same
      exact ⟨place, among⟩
  · rintro ⟨place, among⟩
    exact ⟨(place, file), List.mem_filterMap.mpr ⟨_, among, rfl⟩, rfl⟩

end Totals

end ProjectScribe.Reading
