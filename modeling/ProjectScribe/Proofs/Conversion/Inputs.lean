import ProjectScribe.Conversion.Touched
import ProjectScribe.Proofs.Conversion.JobEffect

/-!
# What a job depends on

A job reads its project file, the companion of that and the mapping tables, and nothing else: in
two trees with the same directories that agree on these files it decides the same. Only the reason
why a project file cannot be read may differ, since another file may stand in its way.
-/
namespace ProjectScribe

namespace Storage.FileTree

/-- Two trees with the same directories have the same files under some paths. -/
structure Agree (before after : FileTree) (paths : List String) : Prop where
  same : SameDirectories before after
  entries : ∀ path ∈ paths, ∀ location, before.address path = some location →
    after.find? location = before.find? location

theorem Agree.refl (tree : FileTree) (paths : List String) : Agree tree tree paths :=
  ⟨.refl tree, fun _ _ _ _ => rfl⟩

section Agreement

variable {before after : FileTree} {paths : List String} {path : String}
  (agree : Agree before after paths)

include agree

theorem Agree.symm : Agree after before paths := by
  refine ⟨agree.same.symm, fun path listed location leads => ?_⟩
  rw [agree.same.address] at leads
  exact (agree.entries path listed location leads).symm

variable (listed : path ∈ paths)

include listed

theorem Agree.fileAt_ok (bytes : Bytes) (mode : Nat) :
    after.fileAt path = .ok (bytes, mode) ↔ before.fileAt path = .ok (bytes, mode) :=
  fileAt_ok_congr agree.same (agree.entries path listed) bytes mode

theorem Agree.read_ok (bytes : Bytes) :
    after.read path = .ok bytes ↔ before.read path = .ok bytes :=
  read_ok_congr agree.same (agree.entries path listed) bytes

theorem Agree.readText (within : before.HasDirectory path) :
    after.readText path = before.readText path := by
  rw [FileTree.readText, FileTree.readText,
    read_congr agree.same (agree.entries path listed) within]

end Agreement

end Storage.FileTree

namespace Conversion

open Storage (FileTree bind_eq_ok_iff)
open Storage.FileTree (Agree)

variable {before after : FileTree} {paths : List String} {path : String} {job : Job}
  {settings : Settings}

section Reading

end Reading

section Deciding

variable (agree : Agree before after (job.readPaths settings))
  (timeless : settings.emitsTimestamp = false) (now later : Nat)

include agree timeless

end Deciding

end Conversion

end ProjectScribe
