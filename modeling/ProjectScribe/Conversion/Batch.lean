import ProjectScribe.Conversion.Convert

/-!
# Batches

The jobs of a batch are done in order, each on the files that those before it left. A job that
fails does not keep the others from being done, unless validation is strict and its project is
invalid: then the batch ends with it.
-/
namespace ProjectScribe.Conversion

open Storage (FileTree)

/-- What became of the jobs of a batch. -/
structure Summary where
  written : Nat := 0
  unchanged : Nat := 0
  skipped : Nat := 0
  /-- The project files of the jobs that failed, and why. -/
  failed : List (String × Failure) := []
  /-- Whether the batch ended before all jobs were done. -/
  aborted : Bool := false
deriving DecidableEq, Repr

namespace Summary

/-- Whether no job failed. -/
def isSuccess (summary : Summary) : Bool := summary.failed.isEmpty

/-- A summary with one more job in it. -/
def add (summary : Summary) (job : Job) : Except Failure Status → Summary
  | .ok (.converted .unchanged) => { summary with unchanged := summary.unchanged + 1 }
  | .ok (.converted (.written _)) => { summary with written := summary.written + 1 }
  | .ok (.skipped _) => { summary with skipped := summary.skipped + 1 }
  | .error failure => { summary with failed := summary.failed ++ [(job.projectFile, failure)] }

/-- A summary in words. -/
def text (summary : Summary) : String :=
  toString summary.written ++ " written, " ++ toString summary.unchanged ++ " unchanged, " ++
    toString summary.skipped ++ " skipped, " ++ toString summary.failed.length ++ " failed"

end Summary

/-- Whether a result ends a batch. -/
def endsBatch (settings : Settings) : Except Failure Status → Bool
  | .error (.invalid _) => settings.isStrict
  | _ => false

/-- Log why a job failed, if it did. -/
def logFailure (job : Job) : Except Failure Status → Logged Unit
  | .error failure => complain (job.projectFile ++ ": " ++ failure.message)
  | .ok _ => pure ()

/-- The jobs of a batch that are left, added to a summary. -/
def convertFrom (settings : Settings) (now : Nat) (tree : FileTree) (summary : Summary) :
    List Job → Logged (Summary × FileTree)
  | [] => pure (summary, tree)
  | job :: rest => do
    let finished ← convert tree job settings now
    logFailure job finished.result
    let summary := summary.add job finished.result
    if endsBatch settings finished.result then
      complain ("Strict validation failed, " ++ toString rest.length ++
        " remaining project(s) not converted")
      return ({ summary with aborted := true }, finished.tree)
    else convertFrom settings now finished.tree summary rest

/-- Do the jobs of a batch at a time. -/
def convertAll (tree : FileTree) (jobs : List Job) (settings : Settings) (now : Nat) :
    Logged (Summary × FileTree) := do
  let (summary, tree) ← convertFrom settings now tree {} jobs
  inform summary.text
  return (summary, tree)

end ProjectScribe.Conversion
