import ProjectScribe.Conversion.Convert
import ProjectScribe.Proofs.Storage.Replacement

/-!
# What one job decides and what it changes

From the files that it reads, a job decides to fail, to pass over an invalid project or to write a
script. Only a script that differs from the output changes any file, and then the output and its
backup alone. In every other case, whatever goes wrong on the way, the files are left exactly as
they were.
-/
namespace ProjectScribe.Conversion

open Storage (FileTask FileTree backupPath bytesOf effectiveMode)
open Storage.FileTree (Accepts SameDirectories WriteEffect Written)

variable {tree : FileTree} {job : Job} {settings : Settings} {now : Nat} {invalid : Invalid}

section Decisions

/-- What a job is about to do once it has read its files. -/
inductive Decision where
  | fail (failure : Failure)
  | skip (invalid : Invalid)
  | write (script : String)

/-- What a job decides about the projects that it has read. -/
def decisionOn (tree : FileTree) (job : Job) (settings : Settings) (now : Nat) :
    Except Failure (List Project) → Decision
  | .error failure => .fail failure
  | .ok [] => .fail (.noProject job.projectFile)
  | .ok (project :: _) =>
    match (project.validate settings).value with
    | some invalid => if settings.isStrict then .fail (.invalid invalid) else .skip invalid
    | none => .write (scriptFor tree job settings now project).value

/-- What a job decides. -/
def decision (tree : FileTree) (job : Job) (settings : Settings) (now : Nat) : Decision :=
  decisionOn tree job settings now (readProjects tree job.projectFile).value

/-- What remains of a job that has decided. -/
def Decision.carryOut (tree : FileTree) (job : Job) (settings : Settings) : Decision → Finished
  | fail failure => ⟨.error failure, tree⟩
  | skip invalid => ⟨.ok (.skipped invalid), tree⟩
  | write script => (writeScript tree job settings script).value

/-- A job carries out what it has decided. -/
theorem value_convert (tree : FileTree) (job : Job) (settings : Settings) (now : Nat) :
    (convert tree job settings now).value =
      (decision tree job settings now).carryOut tree job settings := by
  rw [convert, decision, Reported.value_bind, Reported.value_bind]
  cases (readProjects tree job.projectFile).value with
  | error failure => rfl
  | ok projects =>
    cases projects with
    | nil => rfl
    | cons project others =>
      simp only [Reported.value_bind, convertProject, decisionOn]
      cases (project.validate settings).value with
      | none => rfl
      | some invalid => cases settings.isStrict <;> rfl

end Decisions

section Validation

variable {path text : String}

theorem bind_eq_error {ε α β : Type} {first : Except ε α} {next : α → Except ε β} {error : ε}
    (failed : first >>= next = .error error) :
    first = .error error ∨ ∃ a, first = .ok a ∧ next a = .error error := by
  cases first with
  | ok a => exact .inr ⟨a, rfl, failed⟩
  | error other => exact .inl (congrArg Except.error (Except.error.inj failed))

/-- Whether a project is invalid is not found out while a document is read. -/
theorem readDocument_ne_invalid : readDocument path text ≠ .error (.invalid invalid) := by
  unfold readDocument
  split <;> simp

theorem readRequired_ne_invalid : readRequired tree path ≠ .error (.invalid invalid) := by
  unfold readRequired
  cases tree.readText path <;> simp [Except.mapError]

theorem readCompanion_ne_invalid : readCompanion tree path ≠ .error (.invalid invalid) := by
  intro failed
  rcases bind_eq_error failed with failed | ⟨text, -, failed⟩
  · unfold readOptional at failed
    split at failed <;> simp at failed
  · cases text with
    | none => exact nomatch failed
    | some text =>
      rcases bind_eq_error failed with failed | ⟨document, -, failed⟩
      · exact readDocument_ne_invalid failed
      · exact nomatch failed

theorem readDeclared_ne_invalid : readDeclared tree path ≠ .error (.invalid invalid) := by
  intro failed
  unfold readDeclared at failed
  split at failed
  · exact nomatch failed
  · rcases bind_eq_error failed with failed | ⟨text, -, failed⟩
    · exact readRequired_ne_invalid failed
    · rcases bind_eq_error failed with failed | ⟨document, -, failed⟩
      · exact readDocument_ne_invalid failed
      · split at failed
        · exact nomatch failed
        · rcases bind_eq_error failed with failed | ⟨companion, -, failed⟩
          · exact readCompanion_ne_invalid failed
          · exact nomatch failed

/-- Nor while the projects of a file are. -/
theorem readProjects_ne_invalid : (readProjects tree path).value ≠ .error (.invalid invalid) := by
  unfold readProjects
  cases declared : readDeclared tree path with
  | error failure =>
    intro failed
    obtain rfl : failure = .invalid invalid := Except.error.inj failed
    exact readDeclared_ne_invalid declared
  | ok reading =>
    dsimp only
    rw [Reported.value_bind]
    cases reading.value <;> exact nofun

/-- A job has a project that does not pass validation. -/
def FailsValidation (tree : FileTree) (job : Job) (settings : Settings) (invalid : Invalid) :
    Prop :=
  ∃ project others, (readProjects tree job.projectFile).value = .ok (project :: others) ∧
    (project.validate settings).value = some invalid

/-- What a job decides about an invalid project depends on how strict validation is. -/
theorem decision_of_failsValidation (fails : FailsValidation tree job settings invalid)
    (now : Nat) : decision tree job settings now =
      if settings.isStrict then .fail (.invalid invalid) else .skip invalid := by
  obtain ⟨project, others, read, verdict⟩ := fails
  rw [decision, read, decisionOn]
  simp only [verdict]

/-- A job decides so about invalid projects alone. -/
theorem failsValidation_of_decision
    (decided : decision tree job settings now = .fail (.invalid invalid) ∨
      decision tree job settings now = .skip invalid) :
    FailsValidation tree job settings invalid := by
  unfold decision at decided
  cases read : (readProjects tree job.projectFile).value with
  | error failure =>
    rw [read] at decided
    rcases decided with failed | skipped
    · obtain rfl := Decision.fail.inj failed
      exact absurd read readProjects_ne_invalid
    · exact nomatch skipped
  | ok projects =>
    rw [read] at decided
    cases projects with
    | nil => simp [decisionOn] at decided
    | cons project others =>
      refine ⟨project, others, read, ?_⟩
      rw [decisionOn] at decided
      cases verdict : (project.validate settings).value with
      | none => simp [verdict] at decided
      | some found =>
        simp only [verdict] at decided
        cases strict : settings.isStrict <;> simpa [strict] using decided

/-- A job fails validation only where this is strict. -/
theorem decision_eq_fail_invalid_iff (tree : FileTree) (job : Job) (settings : Settings)
    (now : Nat) (invalid : Invalid) :
    decision tree job settings now = .fail (.invalid invalid) ↔
      settings.isStrict = true ∧ FailsValidation tree job settings invalid := by
  constructor
  · intro decided
    have fails := failsValidation_of_decision (.inl decided)
    rw [decision_of_failsValidation fails] at decided
    cases strict : settings.isStrict with
    | true => exact ⟨rfl, fails⟩
    | false => simp [strict] at decided
  · rintro ⟨strict, fails⟩
    rw [decision_of_failsValidation fails, strict]
    rfl

/-- A job is passed over for its project only where validation is not strict. -/
theorem decision_eq_skip_iff (tree : FileTree) (job : Job) (settings : Settings) (now : Nat)
    (invalid : Invalid) : decision tree job settings now = .skip invalid ↔
      settings.isStrict = false ∧ FailsValidation tree job settings invalid := by
  constructor
  · intro decided
    have fails := failsValidation_of_decision (.inr decided)
    rw [decision_of_failsValidation fails] at decided
    cases strict : settings.isStrict with
    | true => simp [strict] at decided
    | false => exact ⟨rfl, fails⟩
  · rintro ⟨lenient, fails⟩
    rw [decision_of_failsValidation fails, lenient]
    rfl

end Validation

section Effects

theorem value_writeText (tree : FileTree) (path text : String) (mode : Option Nat) :
    (writeText tree path text mode).value =
      (((FileTask.writeIfChanged path (bytesOf text) mode).perform tree).1.mapError .ofAccess,
        ((FileTask.writeIfChanged path (bytesOf text) mode).perform tree).2) := by
  unfold writeText
  generalize (FileTask.writeIfChanged path (bytesOf text) mode).perform tree = performed
  rcases performed with ⟨_ | _ | _, after⟩ <;> rfl

theorem value_writeScript (tree : FileTree) (job : Job) (settings : Settings) (script : String) :
    (writeScript tree job settings script).value =
      ⟨(((FileTask.writeIfChanged job.output (bytesOf script) settings.permissions).perform
          tree).1.mapError .ofAccess).map .converted,
        ((FileTask.writeIfChanged job.output (bytesOf script) settings.permissions).perform
          tree).2⟩ := by
  rw [writeScript, Reported.value_bind, value_writeText]
  generalize (FileTask.writeIfChanged job.output (bytesOf script) settings.permissions).perform
    tree = performed
  rcases performed with ⟨_ | _ | _, after⟩ <;> rfl

/-- What a job may give and leave: a result that changes no file, or one that has changed the
output and its backup. -/
inductive JobEffect (before : FileTree) (job : Job) (settings : Settings) (now : Nat) :
    Finished → Prop where
  | failed (failure : Failure) (decided : decision before job settings now = .fail failure) :
      JobEffect before job settings now ⟨.error failure, before⟩
  | skipped (invalid : Invalid) (decided : decision before job settings now = .skip invalid) :
      JobEffect before job settings now ⟨.ok (.skipped invalid), before⟩
  | refused (script : String) (error : Storage.AccessError)
      (decided : decision before job settings now = .write script)
      (differs : before.read job.output ≠ .ok (bytesOf script))
      (refuses : ¬ Accepts before job.output) :
      JobEffect before job settings now ⟨.error (.ofAccess error), before⟩
  | unchanged (script : String) (decided : decision before job settings now = .write script)
      (present : before.read job.output = .ok (bytesOf script)) :
      JobEffect before job settings now ⟨.ok (.converted .unchanged), before⟩
  | written (script : String) {backup : Option String} {after : FileTree}
      (decided : decision before job settings now = .write script)
      (differs : before.read job.output ≠ .ok (bytesOf script))
      (accepts : Accepts before job.output)
      (written : Written before job.output (bytesOf script)
        (effectiveMode settings.permissions) backup after) :
      JobEffect before job settings now ⟨.ok (.converted (.written backup)), after⟩

/-- A job that has decided to write a script gives and leaves what writing it does. -/
theorem convert_of_write {script : String}
    (decided : decision tree job settings now = .write script) :
    ∃ performed, WriteEffect tree job.output (bytesOf script)
        (effectiveMode settings.permissions) performed ∧
      (convert tree job settings now).value =
        ⟨(performed.1.mapError .ofAccess).map .converted, performed.2⟩ := by
  refine ⟨_, FileTask.writeIfChanged_effect job.output (bytesOf script) settings.permissions tree,
    ?_⟩
  rw [value_convert, decided, Decision.carryOut, value_writeScript]

theorem convert_effect (tree : FileTree) (job : Job) (settings : Settings) (now : Nat) :
    JobEffect tree job settings now (convert tree job settings now).value := by
  cases decided : decision tree job settings now with
  | fail failure =>
    rw [value_convert, decided]
    exact .failed failure decided
  | skip invalid =>
    rw [value_convert, decided]
    exact .skipped invalid decided
  | write script =>
    obtain ⟨performed, effect, value⟩ := convert_of_write decided
    rw [value]
    cases effect with
    | refused error differs refuses => exact .refused script error decided differs refuses
    | unchanged present => exact .unchanged script decided present
    | written differs accepts written => exact .written script decided differs accepts written

/-- A job leaves the directories as they are. -/
theorem JobEffect.sameDirectories {finished : Finished}
    (effect : JobEffect tree job settings now finished) : SameDirectories tree finished.tree := by
  cases effect with
  | written script _ _ _ written => exact written.sameDirectories
  | _ => exact .refl tree

/-- A job leaves everything as it is except at the addresses of its output and of the backup. -/
theorem JobEffect.find?_of_ne {finished : Finished}
    (effect : JobEffect tree job settings now finished) {other : Storage.Location}
    (apart : tree.address job.output ≠ some other)
    (apartBehind : tree.address (backupPath job.output) ≠ some other) :
    finished.tree.find? other = tree.find? other := by
  cases effect with
  | written script _ _ _ written => exact written.find?_of_ne apart apartBehind
  | _ => rfl

/-- The result of a job is that its project is invalid only where validation is strict. -/
theorem result_eq_invalid_iff :
    (convert tree job settings now).value.result = .error (.invalid invalid) ↔
      settings.isStrict = true ∧ FailsValidation tree job settings invalid := by
  have effect := convert_effect tree job settings now
  have decides := decision_eq_fail_invalid_iff tree job settings now invalid
  generalize (convert tree job settings now).value = finished at effect ⊢
  rw [← decides]
  cases effect with
  | failed failure decided => simp [decided]
  | skipped other decided => simp [decided]
  | refused script error decided => cases error <;> simp [decided, Failure.ofAccess]
  | unchanged script decided => simp [decided]
  | written script decided => simp [decided]

/-- The result of a job is that its project was passed over only where validation is not strict. -/
theorem result_eq_skipped_iff :
    (convert tree job settings now).value.result = .ok (.skipped invalid) ↔
      settings.isStrict = false ∧ FailsValidation tree job settings invalid := by
  have effect := convert_effect tree job settings now
  have decides := decision_eq_skip_iff tree job settings now invalid
  generalize (convert tree job settings now).value = finished at effect ⊢
  rw [← decides]
  cases effect with
  | failed failure decided => simp [decided]
  | skipped other decided => simp [decided]
  | refused script error decided => simp [decided]
  | unchanged script decided => simp [decided]
  | written script decided => simp [decided]

end Effects

end ProjectScribe.Conversion
