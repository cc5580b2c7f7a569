import ProjectScribe.Storage.WriteBack
import ProjectScribe.Validation

/-!
# Failures of a conversion

A conversion fails because a file cannot be read or written, or because of what a file says.
-/
namespace ProjectScribe.Conversion

open Storage (AccessError Cause)

/-- Why a conversion fails. -/
inductive Failure where
  | read (path : String) (cause : Cause)
  | write (path : String) (cause : Cause)
  | malformed (path : String)
  | unsupported (path : String)
  | noProject (path : String)
  | invalid (invalid : Invalid)
  | settings (path : String)
deriving DecidableEq, Repr

/-- A failure in words. -/
def Failure.message : Failure → String
  | read path cause => "failed to read " ++ path ++ ": " ++ cause.describe
  | write path cause => "failed to write " ++ path ++ ": " ++ cause.describe
  | malformed path => "malformed XML in " ++ path ++ ": not a well-formed document"
  | unsupported path => "unsupported project file type: " ++ path
  | noProject path => "no project element found in " ++ path
  | invalid found => found.message
  | settings path => "invalid settings file " ++ path ++ ": not an object of settings"

/-- The failure of a file that cannot be used. -/
def Failure.ofAccess : AccessError → Failure
  | .read path cause => .read path cause
  | .write path cause => .write path cause

end ProjectScribe.Conversion
