import ProjectScribe.CommandLine.Program
import ProjectScribe.Proofs.Conversion.Reconversion

/-!
# Scripts that share an output

A script stands beside its project file unless another output is asked for, which only a single
project may have. So projects in one directory share an output, and the last one converted
replaces the scripts of the others: after a run, every converted project has its script in place
if and only if those that share an output have the same script.
-/
namespace ProjectScribe

open Storage (Bytes FileTree backupPath bytesOf)
open Storage.FileTree (Apart SameDirectories bytesAt_eq_ok_iff bytesAt_of_same_address
  bytesAt_ok_congr endsWithSlash endsWithSlash_of_bytesAt eq_append_of_address namesOf
  namesOf_append read_eq_ok_iff)

namespace Conversion

variable {settings : Settings} {now : Nat} {tree last : FileTree} {job : Job} {path script : String}
  {attempted : List Attempt}

section Kept

/-- The script that a job generated, if its project was converted. -/
def Attempt.script? (settings : Settings) (now : Nat) (done : Attempt) : Option String :=
  match done.result, decision done.before done.job settings now with
  | .ok (.converted _), .write script => some script
  | _, _ => none

theorem bytesOf_injective {text other : String} (same : bytesOf text = bytesOf other) :
    text = other := by
  have array : text.toByteArray.data = other.toByteArray.data := Array.toList_inj.mp same
  exact String.toByteArray_inj.mp (ByteArray.ext array)

/-- A converted project has its script in place at once. -/
theorem bytesAt_script
    (generated : (attempt settings now tree job).script? settings now = some script) :
    (attempt settings now tree job).after.bytesAt job.output = .ok (bytesOf script) := by
  have effect := convert_effect tree job settings now
  unfold attempt Attempt.script? at *
  generalize (convert tree job settings now).value = finished at effect generated ⊢
  cases effect with
  | failed => exact nomatch generated
  | skipped => exact nomatch generated
  | refused => exact nomatch generated
  | unchanged other decided present =>
    simp only [decided, Option.some.injEq] at generated
    subst generated
    obtain ⟨mode, found, -⟩ := read_eq_ok_iff.mp present
    exact bytesAt_eq_ok_iff.mpr ⟨mode, found⟩
  | written other decided _ _ written =>
    simp only [decided, Option.some.injEq] at generated
    subst generated
    exact bytesAt_eq_ok_iff.mpr ⟨_, written.fileAt_output⟩

/-- A script stays in place when another job is done, unless that puts another script there. -/
theorem convert_keeps (held : tree.bytesAt path = .ok (bytesOf script))
    (apartBehind : Apart tree (backupPath (attempt settings now tree job).job.output) path)
    (alike : ∀ other, (attempt settings now tree job).script? settings now = some other →
      tree.address (attempt settings now tree job).job.output = tree.address path →
        other = script) :
    (attempt settings now tree job).after.bytesAt path = .ok (bytesOf script) := by
  have effect := convert_effect tree job settings now
  unfold attempt Attempt.script? at *
  generalize (convert tree job settings now).value = finished at effect alike ⊢
  cases effect with
  | written other decided _ _ written =>
    have same := written.sameDirectories
    by_cases shared : tree.address job.output = tree.address path
    · obtain rfl : other = script := alike other (by simp only [decided]) shared
      refine bytesAt_of_same_address ?_ (endsWithSlash_of_bytesAt held)
        (bytesAt_eq_ok_iff.mpr ⟨_, written.fileAt_output⟩)
      rw [same.address, same.address, shared]
    · refine (bytesAt_ok_congr same (fun location leads => ?_) _).mpr held
      exact written.find?_of_ne (fun there => shared (there.trans leads.symm))
        (apartBehind.ne leads)
  | _ => exact held

/-- A script stays in place while jobs are done that put no other one there. -/
theorem Chained.keeps (chained : Chained settings now tree attempted last)
    (held : tree.bytesAt path = .ok (bytesOf script))
    (apartBehind : ∀ done ∈ attempted, Apart tree (backupPath done.job.output) path)
    (alike : ∀ done ∈ attempted, ∀ other, done.script? settings now = some other →
      tree.address done.job.output = tree.address path → other = script) :
    last.bytesAt path = .ok (bytesOf script) := by
  induction chained with
  | done => exact held
  | @next tree last job rest later inductionHypothesis =>
    have same := (convert_effect tree job settings now).sameDirectories
    refine inductionHypothesis ?_ (fun done listed => ?_) fun done listed other generated => ?_
    · exact convert_keeps held (apartBehind _ List.mem_cons_self)
        (alike _ List.mem_cons_self)
    · exact same.apart.mpr (apartBehind done (List.mem_cons_of_mem _ listed))
    · rw [attempt, same.address, same.address]
      exact alike done (List.mem_cons_of_mem _ listed) other generated

/-- If scripts with a common output are the same, each stays in place. -/
theorem Chained.scripts_kept (chained : Chained settings now tree attempted last)
    (apartBehind : attempted.Pairwise fun first second =>
      Apart tree (backupPath second.job.output) first.job.output)
    (alike : ∀ first ∈ attempted, ∀ second ∈ attempted,
      tree.address first.job.output = tree.address second.job.output →
      ∀ script other, first.script? settings now = some script →
        second.script? settings now = some other → script = other) :
    ∀ done ∈ attempted, ∀ script, done.script? settings now = some script →
      last.bytesAt done.job.output = .ok (bytesOf script) := by
  induction chained with
  | done => exact nofun
  | @next tree last job rest later inductionHypothesis =>
    have same := (convert_effect tree job settings now).sameDirectories
    obtain ⟨apartFirst, apartRest⟩ := List.pairwise_cons.mp apartBehind
    intro done listed script generated
    rcases List.mem_cons.mp listed with rfl | listed
    -- The first script is in place at once, and the later jobs do not put another one there.
    · refine later.keeps (bytesAt_script generated) (fun other among => ?_) ?_
      · exact same.apart.mpr (apartFirst other among)
      · intro other among text generatedToo shared
        rw [attempt, same.address, same.address] at shared
        exact alike other (List.mem_cons_of_mem _ among) _ List.mem_cons_self shared text script
          generatedToo generated
    · refine inductionHypothesis (apartRest.imp fun apart => same.apart.mpr apart) ?_ done listed
        script generated
      intro first amongFirst second amongSecond shared
      rw [attempt, same.address, same.address] at shared
      exact alike first (List.mem_cons_of_mem _ amongFirst) second
        (List.mem_cons_of_mem _ amongSecond) shared

/-- Scripts that are in place under a common output are the same. -/
theorem Chained.scripts_alike (chained : Chained settings now tree attempted last)
    (kept : ∀ done ∈ attempted, ∀ script, done.script? settings now = some script →
      last.bytesAt done.job.output = .ok (bytesOf script)) :
    ∀ first ∈ attempted, ∀ second ∈ attempted,
      tree.address first.job.output = tree.address second.job.output →
      ∀ script other, first.script? settings now = some script →
        second.script? settings now = some other → script = other := by
  intro first amongFirst second amongSecond shared script other generated generatedToo
  have same := chained.frame.1
  have held := kept first amongFirst script generated
  have heldToo := kept second amongSecond other generatedToo
  have sharedLast : last.address second.job.output = last.address first.job.output := by
    rw [same.address, same.address, shared]
  rw [bytesAt_of_same_address sharedLast (endsWithSlash_of_bytesAt heldToo) held] at heldToo
  exact bytesOf_injective (Except.ok.inj heldToo)

end Kept

section Beside

/-- A relative path stays whole behind a directory. -/
theorem toList_join (base name : String) (relative : Path.isRooted name = false) :
    (Path.join base name).toList = name.toList ∨
      ∃ text, (Path.join base name).toList = text ++ '/' :: name.toList := by
  unfold Path.join
  rw [relative, Bool.false_or]
  split
  · exact .inl rfl
  · split
    · next ends =>
      obtain ⟨text, written⟩ := List.getLast?_eq_some_iff.mp (eq_of_beq ends)
      exact .inr ⟨text, by rw [String.toList_append, written]; simp⟩
    · exact .inr ⟨base.toList, by simp⟩

/-- The output beside a project file has the name of scripts as its last name. -/
theorem namesOf_beside (projectFile : String) :
    (∃ above, namesOf (Job.beside projectFile).output = above ++ [scriptName]) ∧
      endsWithSlash (Job.beside projectFile).output = false := by
  have single : Text.pieces (· == '/') scriptName.toList = [scriptName.toList] := by decide
  have last : scriptName.toList.getLast? = some 't' := by decide
  have named : scriptName.toList.isEmpty = false := by decide
  rcases toList_join (Path.directory projectFile) scriptName (by decide) with alone | ⟨text, behind⟩
  · refine ⟨⟨[], ?_⟩, ?_⟩
    · simp [namesOf, Path.segments, Job.beside, alone, single, named]
    · simp [endsWithSlash, Job.beside, alone, last]
  · refine ⟨⟨((Text.pieces (· == '/') text).filter (!·.isEmpty)).map String.ofList, ?_⟩, ?_⟩
    · simp [namesOf, Path.segments, Job.beside, behind, Text.pieces_append_separator, single, named]
    · simp [endsWithSlash, Job.beside, behind, List.getLast?_cons, last]

/-- The backup of one output beside a project file is not another such output. -/
theorem apart_beside (tree : FileTree) (first second : String) :
    Apart tree (backupPath (Job.beside second).output) (Job.beside first).output := by
  intro shared
  cases leads : tree.address (Job.beside first).output with
  | none => exact shared.trans leads
  | some location =>
    exfalso
    obtain ⟨⟨_, names⟩, -⟩ := namesOf_beside first
    obtain ⟨⟨_, namesSecond⟩, plain⟩ := namesOf_beside second
    -- Both addresses end with the last names of their paths, which differ.
    have single : '/' ∉ Storage.backupSuffix.toList := by decide
    have namesBehind := namesOf_append namesSecond plain single
    obtain ⟨_, same⟩ := eq_append_of_address leads names (by decide) (by decide)
    obtain ⟨_, sameBehind⟩ :=
      eq_append_of_address (shared.trans leads) namesBehind (by decide) (by decide)
    rw [same] at sameBehind
    obtain ⟨-, sameLast⟩ := List.append_inj' sameBehind rfl
    exact absurd (List.head_eq_of_cons_eq sameLast) (by decide)

end Beside

end Conversion

namespace CommandLine

open Conversion

variable {words : List String} {arguments : Arguments}

/-- A command line that is understood asks for an output only if it names a single project. -/
theorem output_of_parse (accepted : Arguments.parse words = .ok arguments) :
    arguments.output = none ∨ arguments.projects.length ≤ 1 := by
  obtain ⟨read, -, accepted⟩ := Storage.bind_eq_ok_iff.mp accepted
  obtain ⟨settled, -, accepted⟩ := Storage.bind_eq_ok_iff.mp accepted
  dsimp only at accepted
  split at accepted
  · exact nomatch accepted
  · split at accepted
    · exact nomatch accepted
    · next together =>
      obtain rfl := Except.ok.inj accepted
      cases asked : settled.arguments.output with
      | none => exact .inl rfl
      | some output =>
        simp only [asked, Option.isSome_some, Bool.true_and, decide_eq_true_eq] at together
        exact .inr (Nat.le_of_not_lt together)

/-- No job of a command line keeps the old content of its output in the output of another. -/
theorem jobs_apart (accepted : Arguments.parse words = .ok arguments) (tree : FileTree) :
    arguments.jobs.Pairwise fun first second =>
      Apart tree (backupPath second.output) first.output := by
  rw [Arguments.jobs, List.pairwise_map]
  rcases output_of_parse accepted with none | single
  · rw [none]
    exact List.pairwise_of_forall fun first second => apart_beside tree first second
  · match arguments.projects, single with
    | [], _ => exact .nil
    | [project], _ => exact List.pairwise_singleton _ project

/-- After a run, every converted project has its own script in place if and only if those that
share an output have the same script. -/
theorem scripts_kept_iff (accepted : Arguments.parse words = .ok arguments) (settings : Settings)
    (now : Nat) (tree : FileTree) :
    (∀ done ∈ attempts settings now tree arguments.jobs, ∀ script ∈ done.script? settings now,
      (convertAll tree arguments.jobs settings now).value.2.bytesAt done.job.output =
        .ok (bytesOf script)) ↔
    ∀ first ∈ attempts settings now tree arguments.jobs,
      ∀ second ∈ attempts settings now tree arguments.jobs,
        tree.address first.job.output = tree.address second.job.output →
        ∀ script ∈ first.script? settings now, ∀ other ∈ second.script? settings now,
          script = other := by
  rw [value_convertAll]
  have chained := chained_attempts settings now tree arguments.jobs
  obtain ⟨rest, split, -⟩ := attempts_jobs settings now tree arguments.jobs
  have apart : (attempts settings now tree arguments.jobs).Pairwise fun first second =>
      Apart tree (backupPath second.job.output) first.job.output := by
    have all := jobs_apart accepted tree
    rw [split, List.pairwise_append] at all
    exact List.pairwise_map.mp all.1
  constructor
  · intro kept first amongFirst second amongSecond shared script generated other generatedToo
    exact chained.scripts_alike kept first amongFirst second amongSecond shared script other
      generated generatedToo
  · intro alike
    refine chained.scripts_kept apart ?_
    intro first amongFirst second amongSecond shared script other generated generatedToo
    exact alike first amongFirst second amongSecond shared script generated other generatedToo

/-- A command line with two projects in directories of their own. -/
def besideArguments : Arguments := { projects := ["a/p.vcproj", "b/q.vcxproj"] }

theorem scripts_kept_iff_sideBySide :
    Arguments.parse ["a/p.vcproj", "b/q.vcxproj"] = .ok besideArguments ∧
    ((∀ done ∈ attempts {} 0 sideBySide besideArguments.jobs, ∀ script ∈ done.script? {} 0,
      (convertAll sideBySide besideArguments.jobs {} 0).value.2.bytesAt done.job.output =
        .ok (bytesOf script)) ↔
    ∀ first ∈ attempts {} 0 sideBySide besideArguments.jobs,
      ∀ second ∈ attempts {} 0 sideBySide besideArguments.jobs,
        sideBySide.address first.job.output = sideBySide.address second.job.output →
        ∀ script ∈ first.script? {} 0, ∀ other ∈ second.script? {} 0, script = other) :=
  have accepted : Arguments.parse ["a/p.vcproj", "b/q.vcxproj"] = .ok besideArguments := by rfl
  ⟨accepted, scripts_kept_iff accepted {} 0 sideBySide⟩

/-- A command line with two projects in one directory. -/
def togetherArguments : Arguments := { projects := ["d/a.vcproj", "d/b.vcproj"] }

/-- The tree with these two projects. -/
def inOneDirectory : FileTree :=
  { entries :=
      [(["d"], .directory),
        (["d", "a.vcproj"], .file (bytesOf ("<VisualStudioProject Name=\"a\"><Configurations>" ++
          "<Configuration Name=\"D|W\"/></Configurations></VisualStudioProject>")) 0o644),
        (["d", "b.vcproj"], .file (bytesOf ("<VisualStudioProject Name=\"b\"><Configurations>" ++
          "<Configuration Name=\"D|W\"/></Configurations></VisualStudioProject>")) 0o644)]
    home := [] }

/-- Not every converted project has its script in place after a run, even if no project file is
named twice and no job reads an output: one that stands beside another loses its script. -/
theorem inOneDirectory_replaced :
    Arguments.parse ["d/a.vcproj", "d/b.vcproj"] = .ok togetherArguments ∧
    togetherArguments.projects.Nodup ∧
    (∀ writer ∈ togetherArguments.jobs, ∀ reader ∈ togetherArguments.jobs,
      ∀ path ∈ reader.readPaths {}, Apart inOneDirectory writer.output path) ∧
    ¬ ∀ done ∈ attempts {} 0 inOneDirectory togetherArguments.jobs,
      ∀ script ∈ done.script? {} 0,
        (convertAll inOneDirectory togetherArguments.jobs {} 0).value.2.bytesAt done.job.output =
          .ok (bytesOf script) :=
  ⟨by rfl, by decide, by decide +kernel, by decide +kernel⟩

end CommandLine

end ProjectScribe
