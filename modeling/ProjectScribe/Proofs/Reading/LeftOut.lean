import ProjectScribe.Reading.Choice
import ProjectScribe.Reading.Note

/-!
# The files that a reading leaves out

Of everything that a reading notes, only the notes about files that are left out count here. Most
steps of a reading never leave out a file: such a step is `Quiet`, and steps made of quiet ones
are quiet.
-/
namespace ProjectScribe.Reading

/-- The file that a note says is left out, and why. -/
def Note.leftOut? : Note → Option (String × SkipReason)
  | .skipped path reason => some (path, reason)
  | _ => none

/-- The files that notes say are left out, and why. -/
def leftOut (notes : List Note) : List (String × SkipReason) := notes.filterMap Note.leftOut?

@[simp] theorem leftOut_nil : leftOut [] = [] := rfl

@[simp] theorem leftOut_append (first second : List Note) :
    leftOut (first ++ second) = leftOut first ++ leftOut second :=
  List.filterMap_append

theorem leftOut_flatMap {α : Type} (list : List α) (notes : α → List Note) :
    leftOut (list.flatMap notes) = list.flatMap fun a => leftOut (notes a) :=
  List.filterMap_flatMap ..

/-- A reading that leaves out no file. -/
def Quiet {α : Type} (reading : Reading α) : Prop := leftOut reading.notes = []

section Quiet

variable {α β : Type}

@[simp] theorem quiet_pure (a : α) : Quiet (pure a : Reading α) := rfl

@[simp] theorem quiet_bind (first : Reading α) (next : α → Reading β) :
    Quiet (first >>= next) ↔ Quiet first ∧ Quiet (next first.value) := by
  simp [Quiet]

@[simp] theorem quiet_map (f : α → β) (reading : Reading α) :
    Quiet (f <$> reading) ↔ Quiet reading := by
  simp [Quiet]

@[simp] theorem quiet_note (note : Note) :
    Quiet (Reported.note note) ↔ note.leftOut? = none := by
  cases found : note.leftOut? <;> simp [Quiet, leftOut, found]

@[simp] theorem quiet_noteIf (condition : Bool) (note : Note) :
    Quiet (Reported.noteIf condition note) ↔ (condition = true → note.leftOut? = none) := by
  cases condition
  · simp [Quiet]
  · cases found : note.leftOut? <;> simp [Quiet, leftOut, found]

/-- Quiet steps, one for every element of a list, are quiet. -/
theorem quiet_forEach (step : α → Reading β) (list : List α)
    (quiet : ∀ a ∈ list, Quiet (step a)) : Quiet (Reported.forEach step list) := by
  rw [Quiet, Reported.notes_forEach, leftOut_flatMap]
  exact List.flatMap_eq_nil_iff.mpr quiet

/-- A list worked off by quiet steps is quiet. -/
theorem quiet_fold (step : β → α → Reading β) (state : β) (list : List α)
    (quiet : ∀ state, ∀ a ∈ list, Quiet (step state a)) :
    Quiet (Reported.fold step state list) := by
  have nothing := Reported.seen_fold leftOut leftOut_nil leftOut_append quiet state
  rwa [List.flatMap_eq_nil_iff.mpr fun _ _ => rfl] at nothing

/-- What a value stands for is found out quietly. -/
@[simp] theorem quiet_decode (choice : Choice α) (raw : String) : Quiet (choice.decode raw) := by
  rw [Choice.decode]
  split
  · exact quiet_pure _
  · split
    · exact quiet_pure _
    · simp [Note.leftOut?]

@[simp] theorem quiet_debugRuntime (raw : String) : Quiet (debugRuntime raw) := by
  simp [debugRuntime]

end Quiet

end ProjectScribe.Reading
