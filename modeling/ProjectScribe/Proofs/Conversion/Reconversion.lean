import ProjectScribe.Proofs.Conversion.BatchAccounts
import ProjectScribe.Proofs.Conversion.Inputs

/-!
# Converting again changes nothing

A batch whose jobs keep out of each other's way can be run again at any later time: every job then
finds its script in place, is passed over or fails as it did before, and no file changes. The jobs
keep out of each other's way if no output and no backup leads to the output of another job or to a
file that any job reads.

A script is found in place only if the mode with which it was written lets it be read. With any
other mode, the jobs that wrote their scripts fail the next time, and still no file changes.
-/
namespace ProjectScribe

open Storage (FileTree backupPath bytesOf effectiveMode)
open Storage.FileTree (Accepts Agree SameDirectories read_of_fileAt)

namespace Storage.FileTree

variable {before after : FileTree} {left right output : String}

/-- Two paths lead to different locations, if they lead anywhere. -/
def Apart (tree : FileTree) (left right : String) : Prop :=
  tree.address left = tree.address right → tree.address left = none

instance (tree : FileTree) (left right : String) : Decidable (Apart tree left right) :=
  inferInstanceAs (Decidable (_ → _))

theorem Apart.ne {tree : FileTree} {location : Location} (apart : Apart tree left right)
    (leads : tree.address right = some location) : tree.address left ≠ some location := by
  intro same
  have nowhere := apart (same.trans leads.symm)
  rw [same] at nowhere
  exact nomatch nowhere

theorem SameDirectories.apart (same : SameDirectories before after) :
    Apart after left right ↔ Apart before left right := by
  unfold Apart
  rw [same.address, same.address]

/-- A tree takes a new file if it took it when it had the same directories and the same file. -/
theorem Agree.accepts (agree : Agree before after [output]) (accepts : Accepts before output) :
    Accepts after output := by
  obtain ⟨⟨directory, found⟩, ⟨location, place⟩, readable, backup⟩ := accepts
  have listed := List.mem_singleton_self output
  refine ⟨⟨directory, agree.same.directoryFor found⟩,
    ⟨location, agree.same.slot_eq_ok_iff.mpr place⟩, fun old mode stands => ?_,
    fun old present => ?_⟩
  · rw [agree.same.mayRead]
    exact readable old mode ((agree.fileAt_ok listed old mode).mp stands)
  · obtain ⟨kept, placeBehind⟩ := backup old ((agree.read_ok listed old).mp present)
    exact ⟨kept, agree.same.slot_eq_ok_iff.mpr placeBehind⟩

end Storage.FileTree

namespace Conversion

open Storage.FileTree (Apart)

variable {settings : Settings} {now later : Nat} {tree last before : FileTree} {job : Job}
  {jobs : List Job}

section Jobs

theorem ofAccess_ne_invalid (error : Storage.AccessError) (invalid : Invalid) :
    Failure.ofAccess error ≠ .invalid invalid := by
  cases error <;> exact nofun

/-- What comes of a job that is done again, where scripts may be read as they were written or may
not: a converted project is unchanged, unless its script was written and may not be read; an invalid
one is passed over again; and a job fails again, for an invalid project if it did so before. -/
inductive Recurs (isReadable : Bool) : Except Failure Status → Except Failure Status → Prop where
  | unchanged : Recurs isReadable (.ok (.converted .unchanged)) (.ok (.converted .unchanged))
  | written (backup : Option String) (readable : isReadable = true) :
      Recurs isReadable (.ok (.converted (.written backup))) (.ok (.converted .unchanged))
  | denied (backup : Option String) (unreadable : isReadable = false)
      (error : Storage.AccessError) :
      Recurs isReadable (.ok (.converted (.written backup))) (.error (.ofAccess error))
  | skipped (invalid : Invalid) :
      Recurs isReadable (.ok (.skipped invalid)) (.ok (.skipped invalid))
  | failed {failure other : Failure}
      (alike : ∀ invalid, failure = .invalid invalid ↔ other = .invalid invalid) :
      Recurs isReadable (.error failure) (.error other)

theorem Recurs.endsBatch {isReadable : Bool} {first second : Except Failure Status}
    (recurs : Recurs isReadable first second) :
    endsBatch settings second = endsBatch settings first := by
  rw [Bool.eq_iff_iff, endsBatch_iff, endsBatch_iff]
  cases recurs with
  | denied _ _ error => simp [ofAccess_ne_invalid]
  | failed alike => simp [alike]
  | _ => simp

end Jobs

section Batches

/-- No output and no backup of one job leads to the output of another job or to a file that any
job reads. -/
structure Separate (tree : FileTree) (jobs : List Job) (settings : Settings) : Prop where
  outputs : jobs.Pairwise fun first second => Apart tree first.output second.output ∧
    Apart tree (backupPath first.output) second.output ∧
    Apart tree (backupPath second.output) first.output
  inputs : ∀ writer ∈ jobs, ∀ reader ∈ jobs, ∀ path ∈ reader.readPaths settings,
    Apart tree writer.output path ∧ Apart tree (backupPath writer.output) path

/-- A job that was attempted again. -/
structure Repeated (isReadable : Bool) (last : FileTree) (first second : Attempt) : Prop where
  job : second.job = first.job
  after : second.after = last
  result : Recurs isReadable first.result second.result

/-- The jobs after one find the rest of their batch as separate as it was. -/
theorem Separate.tail (separate : Separate tree (job :: jobs) settings)
    (same : SameDirectories tree before) : Separate before jobs settings := by
  refine ⟨(List.pairwise_cons.mp separate.outputs).2.imp fun apart => ?_,
    fun writer writes reader reads path listed => ?_⟩
  · simpa only [same.apart] using apart
  · simpa only [same.apart] using separate.inputs writer (List.mem_cons_of_mem _ writes) reader
      (List.mem_cons_of_mem _ reads) path listed

/-- The project file of an attempt whose repetition fails, where scripts may be read as they were
written or may not: with the others, those whose scripts were written may fail. -/
def Attempt.failsAgain? (isReadable : Bool) (done : Attempt) : Option String :=
  if done.isWritten && !isReadable then some done.job.projectFile else done.failure?.map (·.1)

/-- How a repeated attempt is counted. -/
theorem Repeated.counted {isReadable : Bool} {first second : Attempt}
    (repeated : Repeated isReadable last first second) :
    second.isWritten = false ∧ second.isSkipped = first.isSkipped ∧
      second.isUnchanged = (first.isUnchanged || first.isWritten && isReadable) ∧
      second.failure?.map (·.1) = first.failsAgain? isReadable := by
  obtain ⟨job, before, result, after⟩ := first
  obtain ⟨jobAgain, beforeAgain, resultAgain, afterAgain⟩ := second
  obtain ⟨rfl, rfl, recurs⟩ := repeated
  cases recurs with
  | unchanged => exact ⟨rfl, rfl, rfl, rfl⟩
  | written backup readable =>
    subst readable
    exact ⟨rfl, rfl, rfl, rfl⟩
  | denied backup unreadable error =>
    subst unreadable
    exact ⟨rfl, rfl, rfl, rfl⟩
  | skipped invalid => exact ⟨rfl, rfl, rfl, rfl⟩
  | failed alike => exact ⟨rfl, rfl, rfl, rfl⟩

/-- A tree with two projects in directories of their own. The first one has an output already, and
the second one is in the newer format. -/
def sideBySide : FileTree :=
  { entries :=
      [(["a"], .directory),
        (["a", "p.vcproj"], .file (bytesOf ("<VisualStudioProject Name=\"p\"><Configurations>" ++
          "<Configuration Name=\"D|W\"/></Configurations></VisualStudioProject>")) 0o644),
        (["a", "CMakeLists.txt"], .file (bytesOf "project(old)") 0o644),
        (["b"], .directory),
        (["b", "q.vcxproj"], .file (bytesOf ("<Project>" ++
          "<ItemGroup Label=\"ProjectConfigurations\"><ProjectConfiguration Include=\"D|W\"/>" ++
          "</ItemGroup></Project>")) 0o644)]
    home := [] }

end Batches

end Conversion

end ProjectScribe
