import ProjectScribe.Conversion.Batch
import ProjectScribe.Proofs.Conversion.JobEffect

/-!
# What a batch attempts and counts

A batch attempts its jobs in order, each on the files that the one before left. Its summary counts
every attempt exactly once, and the batch ends before its last job only with the first invalid
project where validation is strict.
-/
namespace ProjectScribe.Conversion

open Storage (FileTree backupPath)
open Storage.FileTree (SameDirectories)

variable {settings : Settings} {now : Nat} {tree last : FileTree} {jobs : List Job}

section Attempts

/-- A job that was attempted, with the files before it, its result and the files after it. -/
structure Attempt where
  job : Job
  before : FileTree
  result : Except Failure Status
  after : FileTree

/-- The attempt of a job on the files of a tree. -/
def attempt (settings : Settings) (now : Nat) (tree : FileTree) (job : Job) : Attempt :=
  ⟨job, tree, (convert tree job settings now).value.result,
    (convert tree job settings now).value.tree⟩

/-- The jobs of a batch that are attempted. -/
def attempts (settings : Settings) (now : Nat) (tree : FileTree) : List Job → List Attempt
  | [] => []
  | job :: rest =>
    let first := attempt settings now tree job
    first ::
      if endsBatch settings first.result then [] else attempts settings now first.after rest

/-- The files that attempts leave. -/
def leftBy (tree : FileTree) (attempted : List Attempt) : FileTree :=
  attempted.foldl (fun _ done => done.after) tree

namespace Attempt

/-- Whether a file was written. -/
def isWritten (done : Attempt) : Bool :=
  match done.result with
  | .ok (.converted (.written _)) => true
  | _ => false

/-- Whether the script was in place already. -/
def isUnchanged (done : Attempt) : Bool :=
  match done.result with
  | .ok (.converted .unchanged) => true
  | _ => false

/-- Whether the project was passed over. -/
def isSkipped (done : Attempt) : Bool :=
  match done.result with
  | .ok (.skipped _) => true
  | _ => false

/-- The project file and why it failed, if it did. -/
def failure? (done : Attempt) : Option (String × Failure) :=
  match done.result with
  | .error failure => some (done.job.projectFile, failure)
  | .ok _ => none

variable {done : Attempt}

theorem isSkipped_iff :
    done.isSkipped = true ↔ ∃ invalid, done.result = .ok (.skipped invalid) := by
  obtain ⟨job, before, result, after⟩ := done
  rcases result with failure | (_ | backup) | invalid <;> simp [isSkipped]

theorem failure?_eq_some_iff {path : String} {failure : Failure} :
    done.failure? = some (path, failure) ↔
      done.job.projectFile = path ∧ done.result = .error failure := by
  obtain ⟨job, before, result, after⟩ := done
  cases result <;> simp [failure?]

/-- An attempt is of exactly one kind. -/
theorem counted_once (done : Attempt) :
    (if done.isWritten then 1 else 0) + (if done.isUnchanged then 1 else 0) +
      (if done.isSkipped then 1 else 0) + (if done.failure?.isSome then 1 else 0) = 1 := by
  obtain ⟨job, before, result, after⟩ := done
  rcases result with failure | (_ | backup) | invalid <;> rfl

end Attempt

/-- The summary of attempts. -/
def tally (settings : Settings) (attempted : List Attempt) : Summary :=
  { written := attempted.countP (·.isWritten)
    unchanged := attempted.countP (·.isUnchanged)
    skipped := attempted.countP (·.isSkipped)
    failed := attempted.filterMap (·.failure?)
    aborted := attempted.any (endsBatch settings ·.result) }

/-- A summary continued by attempts. -/
def Summary.continue (summary : Summary) (settings : Settings) (attempted : List Attempt) :
    Summary :=
  { written := summary.written + (tally settings attempted).written
    unchanged := summary.unchanged + (tally settings attempted).unchanged
    skipped := summary.skipped + (tally settings attempted).skipped
    failed := summary.failed ++ (tally settings attempted).failed
    aborted := summary.aborted || (tally settings attempted).aborted }

theorem Summary.continue_nil (summary : Summary) : summary.continue settings [] = summary := by
  simp [Summary.continue, tally]

/-- A summary is continued by an attempt as its job is added to it. -/
theorem Summary.continue_cons (summary : Summary) (done : Attempt) (rest : List Attempt) :
    summary.continue settings (done :: rest) =
      Summary.continue { summary.add done.job done.result with
        aborted := summary.aborted || endsBatch settings done.result } settings rest := by
  obtain ⟨job, before, result, after⟩ := done
  rcases result with failure | (_ | backup) | invalid <;>
    simp [Summary.continue, tally, Summary.add, Attempt.isWritten, Attempt.isUnchanged,
      Attempt.isSkipped, Attempt.failure?, Bool.or_assoc, Nat.add_assoc, Nat.add_comm 1]

/-- No result of a job alone makes a summary one of an aborted batch. -/
theorem Summary.aborted_add (summary : Summary) (job : Job) (result : Except Failure Status) :
    (summary.add job result).aborted = summary.aborted := by
  rcases result with failure | (_ | backup) | invalid <;> rfl

/-- The jobs of a batch are attempted, and the summary is continued by these attempts. -/
theorem value_convertFrom (settings : Settings) (now : Nat) (tree : FileTree) (summary : Summary)
    (jobs : List Job) : (convertFrom settings now tree summary jobs).value =
      (summary.continue settings (attempts settings now tree jobs),
        leftBy tree (attempts settings now tree jobs)) := by
  induction jobs generalizing tree summary with
  | nil => rw [attempts, Summary.continue_nil]; rfl
  | cons job rest inductionHypothesis =>
    rw [convertFrom, attempts, Summary.continue_cons]
    simp only [Reported.value_bind, attempt]
    by_cases ends : endsBatch settings (convert tree job settings now).value.result = true
    · simp [ends, leftBy, Summary.continue_nil]
    · have kept := Summary.aborted_add summary job (convert tree job settings now).value.result
      simp [ends, inductionHypothesis, leftBy, ← kept]

/-- The summary of a batch is that of its attempts, and its files are those that they leave. -/
theorem value_convertAll (tree : FileTree) (jobs : List Job) (settings : Settings) (now : Nat) :
    (convertAll tree jobs settings now).value =
      (tally settings (attempts settings now tree jobs),
        leftBy tree (attempts settings now tree jobs)) := by
  rw [convertAll, Reported.value_bind, value_convertFrom]
  simp [Summary.continue]

end Attempts

section Order

/-- Attempts that follow one another: each is made on the files that those before it left. -/
inductive Chained (settings : Settings) (now : Nat) :
    FileTree → List Attempt → FileTree → Prop where
  | done (tree : FileTree) : Chained settings now tree [] tree
  | next {tree last : FileTree} {job : Job} {rest : List Attempt}
      (later : Chained settings now (attempt settings now tree job).after rest last) :
      Chained settings now tree (attempt settings now tree job :: rest) last

theorem chained_attempts (settings : Settings) (now : Nat) (tree : FileTree) (jobs : List Job) :
    Chained settings now tree (attempts settings now tree jobs)
      (leftBy tree (attempts settings now tree jobs)) := by
  induction jobs generalizing tree with
  | nil => exact .done tree
  | cons job rest inductionHypothesis =>
    rw [attempts]
    split
    · exact .next (.done _)
    · exact .next (inductionHypothesis _)

theorem Chained.eq_attempt {attempted : List Attempt} {done : Attempt}
    (chained : Chained settings now tree attempted last) (listed : done ∈ attempted) :
    done = attempt settings now done.before done.job := by
  induction chained with
  | done => exact nomatch listed
  | next later inductionHypothesis =>
    rcases List.mem_cons.mp listed with rfl | listed
    · rfl
    · exact inductionHypothesis listed

/-- The jobs are attempted in order, and all of them unless an attempt ends the batch. -/
theorem attempts_jobs (settings : Settings) (now : Nat) (tree : FileTree) (jobs : List Job) :
    ∃ rest, jobs = (attempts settings now tree jobs).map (·.job) ++ rest ∧
      ((attempts settings now tree jobs).any (endsBatch settings ·.result) = false →
        rest = []) := by
  induction jobs generalizing tree with
  | nil => exact ⟨[], rfl, fun _ => rfl⟩
  | cons job rest inductionHypothesis =>
    rw [attempts]
    split
    · next ends => exact ⟨rest, rfl, by simp [ends]⟩
    · next goesOn =>
      obtain ⟨left, split, all⟩ := inductionHypothesis (attempt settings now tree job).after
      refine ⟨left, congrArg (job :: ·) split, ?_⟩
      simpa [goesOn] using all

/-- Only the last attempt can end the batch. -/
theorem attempts_of_ends
    (ends : (attempts settings now tree jobs).any (endsBatch settings ·.result) = true) :
    ∃ earlier final, attempts settings now tree jobs = earlier ++ [final] ∧
      endsBatch settings final.result = true ∧
      ∀ done ∈ earlier, endsBatch settings done.result = false := by
  induction jobs generalizing tree with
  | nil => exact nomatch ends
  | cons job rest inductionHypothesis =>
    rw [attempts] at ends ⊢
    split at ends
    · next stops =>
      rw [if_pos stops]
      exact ⟨[], _, rfl, stops, nofun⟩
    · next goesOn =>
      rw [if_neg goesOn]
      simp only [List.any_cons, goesOn, Bool.false_or] at ends
      obtain ⟨earlier, final, split, stops, before⟩ := inductionHypothesis ends
      refine ⟨_ :: earlier, final, congrArg (_ :: ·) split, stops, fun done listed => ?_⟩
      rcases List.mem_cons.mp listed with rfl | listed
      · exact eq_false_of_ne_true goesOn
      · exact before done listed

/-- Attempts leave the directories as they are, and everything else except at the addresses of their
outputs and of the backups. -/
theorem Chained.frame {attempted : List Attempt}
    (chained : Chained settings now tree attempted last) :
    SameDirectories tree last ∧ ∀ other, (∀ done ∈ attempted,
      tree.address done.job.output ≠ some other ∧
        tree.address (backupPath done.job.output) ≠ some other) →
      last.find? other = tree.find? other := by
  induction chained with
  | done tree => exact ⟨.refl tree, fun _ _ => rfl⟩
  | @next tree last job rest later inductionHypothesis =>
    -- The first job moves no directory, so that the later addresses are those of the first tree.
    obtain ⟨same, frame⟩ := inductionHypothesis
    have effect := convert_effect tree job settings now
    refine ⟨effect.sameDirectories.trans same, fun other apart => ?_⟩
    obtain ⟨apartFirst, apartBehind⟩ := apart _ List.mem_cons_self
    rw [frame other fun done listed => ?_]
    · exact effect.find?_of_ne apartFirst apartBehind
    · rw [attempt, effect.sameDirectories.address, effect.sameDirectories.address]
      exact apart done (List.mem_cons_of_mem _ listed)

end Order

section Accounts

theorem endsBatch_iff {result : Except Failure Status} : endsBatch settings result = true ↔
    settings.isStrict = true ∧ ∃ invalid, result = .error (.invalid invalid) := by
  unfold endsBatch
  split
  · next invalid => simp
  · next other =>
    simp only [Bool.false_eq_true, false_iff, not_and, not_exists]
    exact fun _ => other

/-- Every attempt is counted once. -/
theorem tally_total (settings : Settings) (attempted : List Attempt) :
    (tally settings attempted).written + (tally settings attempted).unchanged +
      (tally settings attempted).skipped + (tally settings attempted).failed.length =
        attempted.length := by
  induction attempted with
  | nil => rfl
  | cons done rest inductionHypothesis =>
    have once := done.counted_once
    simp only [tally, List.length_filterMap_eq_countP, List.countP_cons, List.length_cons]
      at inductionHypothesis ⊢
    omega

section Results

variable {done : Attempt} {invalid : Invalid} (listed : done ∈ attempts settings now tree jobs)

include listed

/-- An attempt fails for an invalid project only where validation is strict. -/
theorem result_invalid_iff : done.result = .error (.invalid invalid) ↔
    settings.isStrict = true ∧ FailsValidation done.before done.job settings invalid := by
  rw [(chained_attempts settings now tree jobs).eq_attempt listed]
  exact result_eq_invalid_iff

/-- An attempt passes an invalid project over only where validation is not strict. -/
theorem result_skipped_iff : done.result = .ok (.skipped invalid) ↔
    settings.isStrict = false ∧ FailsValidation done.before done.job settings invalid := by
  rw [(chained_attempts settings now tree jobs).eq_attempt listed]
  exact result_eq_skipped_iff

/-- An attempt ends its batch if its project is invalid where validation is strict. -/
theorem endsBatch_attempt_iff : endsBatch settings done.result = true ↔
    settings.isStrict = true ∧
      ∃ invalid, FailsValidation done.before done.job settings invalid := by
  rw [endsBatch_iff]
  constructor
  · rintro ⟨strict, invalid, result⟩
    exact ⟨strict, invalid, ((result_invalid_iff listed).mp result).2⟩
  · rintro ⟨strict, invalid, fails⟩
    exact ⟨strict, invalid, (result_invalid_iff listed).mpr ⟨strict, fails⟩⟩

end Results

theorem tally_aborted_iff (settings : Settings) (now : Nat) (tree : FileTree) (jobs : List Job) :
    (tally settings (attempts settings now tree jobs)).aborted = true ↔
      settings.isStrict = true ∧ ∃ done ∈ attempts settings now tree jobs, ∃ invalid,
        FailsValidation done.before done.job settings invalid := by
  rw [tally, List.any_eq_true]
  constructor
  · rintro ⟨done, listed, ends⟩
    obtain ⟨strict, fails⟩ := (endsBatch_attempt_iff listed).mp ends
    exact ⟨strict, done, listed, fails⟩
  · rintro ⟨strict, done, listed, fails⟩
    exact ⟨done, listed, (endsBatch_attempt_iff listed).mpr ⟨strict, fails⟩⟩

/-- A batch that is aborted ends with the first invalid project, and with the failure of that. -/
theorem attempts_of_aborted
    (aborted : (tally settings (attempts settings now tree jobs)).aborted = true) :
    ∃ earlier final invalid failedBefore,
      attempts settings now tree jobs = earlier ++ [final] ∧
      FailsValidation final.before final.job settings invalid ∧
      (∀ done ∈ earlier, ∀ other, ¬ FailsValidation done.before done.job settings other) ∧
      (tally settings (attempts settings now tree jobs)).failed =
        failedBefore ++ [(final.job.projectFile, .invalid invalid)] ∧
      leftBy tree (attempts settings now tree jobs) = final.after := by
  obtain ⟨earlier, final, attempted, ends, before⟩ := attempts_of_ends aborted
  obtain ⟨strict, invalid, result⟩ := endsBatch_iff.mp ends
  have listed : final ∈ attempts settings now tree jobs := by simp [attempted]
  have failure := Attempt.failure?_eq_some_iff.mpr ⟨rfl, result⟩
  refine ⟨earlier, final, invalid, earlier.filterMap (·.failure?), attempted,
    ((result_invalid_iff listed).mp result).2, fun done within other fails => ?_, ?_, ?_⟩
  · have listed : done ∈ attempts settings now tree jobs := by simp [attempted, within]
    have stops := (endsBatch_attempt_iff listed).mpr ⟨strict, other, fails⟩
    rw [before done within] at stops
    exact nomatch stops
  · simp [tally, attempted, failure]
  · simp [attempted, leftBy]

theorem tally_failed_of_lenient (lenient : settings.isStrict = false) :
    ∀ entry ∈ (tally settings (attempts settings now tree jobs)).failed, ∀ invalid,
      entry.2 ≠ .invalid invalid := by
  rintro ⟨path, failure⟩ entered invalid rfl
  obtain ⟨done, listed, failed⟩ := List.mem_filterMap.mp entered
  obtain ⟨-, result⟩ := Attempt.failure?_eq_some_iff.mp failed
  obtain ⟨strict, -⟩ := (result_invalid_iff listed).mp result
  rw [lenient] at strict
  exact nomatch strict

theorem tally_skipped_of_strict (strict : settings.isStrict = true) :
    (tally settings (attempts settings now tree jobs)).skipped = 0 := by
  refine List.countP_eq_zero.mpr fun done listed skipped => ?_
  obtain ⟨invalid, result⟩ := Attempt.isSkipped_iff.mp skipped
  obtain ⟨lenient, -⟩ := (result_skipped_iff listed).mp result
  rw [strict] at lenient
  exact nomatch lenient

/-- What the summary of a batch says about its attempts, and what these leave. -/
structure Accounts (settings : Settings) (now : Nat) (tree : FileTree) (jobs : List Job)
    (attempted : List Attempt) (summary : Summary) (last : FileTree) : Prop where
  /-- Each job is attempted on the files that those before it left. -/
  chained : Chained settings now tree attempted last
  /-- The jobs are attempted in order. -/
  inOrder : attempted.map (·.job) <+: jobs
  /-- All jobs are attempted unless the batch was aborted. -/
  complete : summary.aborted = false → attempted.map (·.job) = jobs
  written : summary.written = attempted.countP (·.isWritten)
  unchanged : summary.unchanged = attempted.countP (·.isUnchanged)
  skipped : summary.skipped = attempted.countP (·.isSkipped)
  /-- The failures are listed in order, and no others. -/
  failed : summary.failed = attempted.filterMap (·.failure?)
  /-- Every attempt is counted once. -/
  total : summary.written + summary.unchanged + summary.skipped + summary.failed.length =
    attempted.length
  /-- A batch is aborted if validation is strict and an attempted project is invalid. -/
  aborted : summary.aborted = true ↔ settings.isStrict = true ∧
    ∃ done ∈ attempted, ∃ invalid, FailsValidation done.before done.job settings invalid
  /-- An aborted batch ends with the first invalid project, which is its last failure, and its
  files stay as that left them. -/
  stopped : summary.aborted = true → ∃ earlier final invalid failedBefore,
    attempted = earlier ++ [final] ∧ FailsValidation final.before final.job settings invalid ∧
    (∀ done ∈ earlier, ∀ other, ¬ FailsValidation done.before done.job settings other) ∧
    summary.failed = failedBefore ++ [(final.job.projectFile, .invalid invalid)] ∧
    last = final.after
  /-- Where validation is not strict, no job fails because its project is invalid. -/
  lenient : settings.isStrict = false →
    ∀ entry ∈ summary.failed, ∀ invalid, entry.2 ≠ .invalid invalid
  /-- Where validation is strict, no project is passed over. -/
  strict : settings.isStrict = true → summary.skipped = 0

/-- Whatever the jobs, the settings and the files, the summary of a batch accounts for its
attempts. -/
theorem convertAll_accounts (tree : FileTree) (jobs : List Job) (settings : Settings) (now : Nat) :
    Accounts settings now tree jobs (attempts settings now tree jobs)
      (convertAll tree jobs settings now).value.1 (convertAll tree jobs settings now).value.2 := by
  rw [value_convertAll]
  obtain ⟨rest, split, all⟩ := attempts_jobs settings now tree jobs
  exact
    { chained := chained_attempts settings now tree jobs
      inOrder := ⟨rest, split.symm⟩
      complete := fun goesOn => by
        rw [all goesOn, List.append_nil] at split
        exact split.symm
      written := rfl
      unchanged := rfl
      skipped := rfl
      failed := rfl
      total := tally_total settings _
      aborted := tally_aborted_iff settings now tree jobs
      stopped := attempts_of_aborted
      lenient := tally_failed_of_lenient
      strict := tally_skipped_of_strict }

end Accounts

end ProjectScribe.Conversion
