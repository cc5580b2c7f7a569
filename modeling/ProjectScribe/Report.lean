/-!
# Results with notes

A reader or a writer that never fails but has something to say returns a value together with
notes, in the order in which they arose. Composing two steps concatenates their notes and hands
on the value; the value of a composition does not depend on the notes.
-/
namespace ProjectScribe

/-- How serious a log record is. -/
inductive Severity where
  | error
  | warning
  | information
deriving DecidableEq, Repr

/-- One line for the person who runs the program. -/
structure LogRecord where
  severity : Severity
  text : String
deriving DecidableEq, Repr

/-- A value and the notes taken while it was computed. -/
structure Reported (Note : Type) (α : Type) where
  value : α
  notes : List Note
deriving DecidableEq, Repr

namespace Reported

variable {Note α β : Type}

/-- A value with nothing to say about it. -/
protected def pure (value : α) : Reported Note α := ⟨value, []⟩

/-- Two steps in order. -/
protected def bind (first : Reported Note α) (next : α → Reported Note β) : Reported Note β :=
  let second := next first.value
  ⟨second.value, first.notes ++ second.notes⟩

instance : Monad (Reported Note) where
  pure := Reported.pure
  bind := Reported.bind

/-- Take one note. -/
def note (n : Note) : Reported Note Unit := ⟨(), [n]⟩

/-- Take one note if a condition holds. -/
def noteIf (condition : Bool) (n : Note) : Reported Note Unit :=
  ⟨(), if condition then [n] else []⟩

/-- A step for every element of a list, from the left, with its notes. -/
def forEach (step : α → Reported Note β) : List α → Reported Note (List β)
  | [] => pure []
  | a :: rest => do
    let b ← step a
    let others ← forEach step rest
    return b :: others

/-- A list worked off from the left, each element changing the state. -/
def fold (step : β → α → Reported Note β) : β → List α → Reported Note β
  | state, [] => pure state
  | state, a :: rest => do
    let next ← step state a
    fold step next rest

@[simp] theorem value_pure (a : α) : (pure a : Reported Note α).value = a := rfl
@[simp] theorem notes_pure (a : α) : (pure a : Reported Note α).notes = [] := rfl

@[simp] theorem value_bind (first : Reported Note α) (next : α → Reported Note β) :
    (first >>= next).value = (next first.value).value := rfl

@[simp] theorem notes_bind (first : Reported Note α) (next : α → Reported Note β) :
    (first >>= next).notes = first.notes ++ (next first.value).notes := rfl

@[simp] theorem notes_note (n : Note) : (note n).notes = [n] := rfl

@[simp] theorem notes_noteIf (condition : Bool) (n : Note) :
    (noteIf condition n).notes = if condition then [n] else [] := rfl

theorem ext {left right : Reported Note α} (value : left.value = right.value)
    (notes : left.notes = right.notes) : left = right := by
  cases left; cases right; simp_all

@[simp] theorem value_map (f : α → β) (r : Reported Note α) : (f <$> r).value = f r.value := rfl

@[simp] theorem notes_map (f : α → β) (r : Reported Note α) : (f <$> r).notes = r.notes := by
  change r.notes ++ [] = r.notes
  simp

instance : LawfulMonad (Reported Note) :=
  LawfulMonad.mk' _
    (fun r => ext rfl (by simp))
    (fun _ _ => ext rfl rfl)
    (fun _ _ _ => ext rfl (by simp))

/-- The values of a step for every element are the values of the steps. -/
@[simp] theorem value_forEach (step : α → Reported Note β) (list : List α) :
    (forEach step list).value = list.map fun a => (step a).value := by
  induction list with
  | nil => rfl
  | cons a rest inductionHypothesis => simp [forEach, inductionHypothesis]

/-- The notes of a step for every element are the notes of the steps, in order. -/
@[simp] theorem notes_forEach (step : α → Reported Note β) (list : List α) :
    (forEach step list).notes = list.flatMap fun a => (step a).notes := by
  induction list with
  | nil => rfl
  | cons a rest inductionHypothesis => simp [forEach, inductionHypothesis]

/-- The value of a worked-off list is the fold of the steps' values. -/
@[simp] theorem value_fold (step : β → α → Reported Note β) (state : β) (list : List α) :
    (fold step state list).value = list.foldl (fun s a => (step s a).value) state := by
  induction list generalizing state with
  | nil => rfl
  | cons a rest inductionHypothesis => simp [fold, inductionHypothesis]

/-- What every step keeps is kept when a list is worked off. -/
theorem fold_keeps {motive : β → Prop} {step : β → α → Reported Note β} {list : List α}
    (keeps : ∀ state, ∀ a ∈ list, motive state → motive (step state a).value) (state : β)
    (initially : motive state) : motive (fold step state list).value := by
  induction list generalizing state with
  | nil => exact initially
  | cons a rest inductionHypothesis =>
    exact inductionHypothesis (fun state b listed => keeps state b (List.mem_cons_of_mem a listed))
      _ (keeps state a List.mem_cons_self initially)

/-- What every step adds to a field is added when a list is worked off. -/
theorem fold_appends {γ : Type} {step : β → α → Reported Note β} (field : β → List γ)
    {adds : α → List γ} (each : ∀ state a, field (step state a).value = field state ++ adds a)
    (state : β) (list : List α) :
    field (fold step state list).value = field state ++ list.flatMap adds := by
  induction list generalizing state with
  | nil => exact (List.append_nil _).symm
  | cons a rest inductionHypothesis =>
    rw [fold, value_bind, inductionHypothesis, each, List.flatMap_cons, List.append_assoc]

/-- Where what is seen of a step's notes does not depend on the state, a worked-off list shows what
its steps show, in order. -/
theorem seen_fold {γ : Type} {step : β → α → Reported Note β} {list : List α}
    (seen : List Note → List γ) {shows : α → List γ} (none : seen [] = [])
    (both : ∀ first second, seen (first ++ second) = seen first ++ seen second)
    (each : ∀ state, ∀ a ∈ list, seen (step state a).notes = shows a) (state : β) :
    seen (fold step state list).notes = list.flatMap shows := by
  induction list generalizing state with
  | nil => exact none
  | cons a rest inductionHypothesis =>
    have further := inductionHypothesis
      (fun state b listed => each state b (List.mem_cons_of_mem a listed)) (step state a).value
    rw [fold, notes_bind, both, further, each state a List.mem_cons_self, List.flatMap_cons]

/-- A list in two parts is worked off part by part. -/
theorem fold_append (step : β → α → Reported Note β) (state : β) (first second : List α) :
    fold step state (first ++ second) = fold step state first >>= fun next =>
      fold step next second := by
  induction first generalizing state with
  | nil => rfl
  | cons a rest inductionHypothesis => simp [fold, inductionHypothesis]

end Reported

end ProjectScribe
