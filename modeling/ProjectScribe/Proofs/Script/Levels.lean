import ProjectScribe.Proofs.Script.Nesting

/-!
# The levels at which a script is written

The writer of a script keeps a level and nothing else: the start of a block raises it, the end
lowers it, and the other part of a block does both. At level zero nothing would be lowered, and
the level would no longer tell how many blocks are open.

Here the lines are laid out once more by the conditions of the blocks that are open, the innermost
first, where the other part or the end of a block has no place without an open one. Whenever
instructions can be laid out, the writer writes the same lines, each at the level of the number of
open blocks, and one deeper for the arguments of a command that has a line for each. The head and
the body of a script, which are written one apart from the other, can both be laid out and leave
no block open.
-/
namespace ProjectScribe.Script

/-- A line inside open blocks. -/
structure Line where
  /-- The conditions of the open blocks, the innermost first. -/
  around : List String
  /-- Whether the line is an argument of a command that has a line for each. -/
  isArgument : Bool := false
  text : String
deriving DecidableEq, Repr

/-- The level at which a line belongs, with its text. -/
def Line.levelled (line : Line) : Nat × String :=
  (line.around.length + if line.isArgument then 1 else 0, line.text)

namespace Instruction

/-- The lines that a command writes, with their levels. -/
def commandWritten (level : Nat) (name : String) (arguments : List String) :
    List (Nat × String) :=
  let single := name ++ "(" ++ " ".intercalate arguments ++ ")"
  if single.utf8ByteSize + 2 * level ≤ longest || arguments.length < 2 then [(level, single)]
  else (level, name ++ "(") :: arguments.map ((level + 1, ·)) ++ [(level, ")")]

/-- The lines that the writer writes for an instruction at a level, with their levels. -/
def written (level : Nat) : Instruction → List (Nat × String)
  | line text => [(level, text)]
  | blank => [(level, "")]
  | comment text => (commentLines text).map ((level, ·))
  | command name arguments => commandWritten level name (arguments.map argument)
  | verbatim name arguments => commandWritten level name arguments
  | openIf condition => [(level, "if(" ++ condition ++ ")")]
  | orElse => [(level - 1, "else()")]
  | closeIf => [(level - 1, "endif()")]

/-- The lines of a command inside open blocks. -/
def commandLines (around : List String) (name : String) (arguments : List String) : List Line :=
  let single := name ++ "(" ++ " ".intercalate arguments ++ ")"
  if single.utf8ByteSize + 2 * around.length ≤ longest || arguments.length < 2 then
    [{ around, text := single }]
  else
    { around, text := name ++ "(" } ::
      arguments.map (fun text => { around, isArgument := true, text }) ++ [{ around, text := ")" }]

/-- The lines of an instruction inside open blocks, and the blocks that are open behind it. The
other part and the end of a block stand outside it, and have no place without one. -/
def place? (around : List String) : Instruction → Option (List Line × List String)
  | line text => some ([{ around, text }], around)
  | blank => some ([{ around, text := "" }], around)
  | comment text => some ((commentLines text).map fun text => { around, text }, around)
  | command name arguments => some (commandLines around name (arguments.map argument), around)
  | verbatim name arguments => some (commandLines around name arguments, around)
  | openIf condition =>
    some ([{ around, text := "if(" ++ condition ++ ")" }], condition :: around)
  | orElse =>
    match around with
    | [] => none
    | condition :: outer => some ([{ around := outer, text := "else()" }], condition :: outer)
  | closeIf =>
    match around with
    | [] => none
    | _ :: outer => some ([{ around := outer, text := "endif()" }], outer)

/-- Whether an instruction starts a block. -/
def isOpening : Instruction → Bool
  | openIf _ => true
  | _ => false

end Instruction

/-- The lines that the writer writes for instructions from a level on, with their levels. -/
def writtenFrom (level : Nat) : List Instruction → List (Nat × String)
  | [] => []
  | instruction :: rest =>
    instruction.written level ++ writtenFrom (instruction.depthAfter level) rest

/-- The lines of instructions inside open blocks, and the blocks that are open behind them, if
every instruction has a place. -/
def layout? (around : List String) : List Instruction → Option (List Line × List String)
  | [] => some ([], around)
  | instruction :: rest => do
    let (lines, inner) ← instruction.place? around
    let (others, left) ← layout? inner rest
    return (lines ++ others, left)

section Writer

/-- A line for each line that is written gives the text of a command. -/
theorem commandAt_eq (level : Nat) (name : String) (arguments : List String) :
    Instruction.commandAt level name arguments =
      String.join ((Instruction.commandWritten level name arguments).map fun line =>
        Instruction.lineAt line.1 line.2) := by
  unfold Instruction.commandAt Instruction.commandWritten
  dsimp only
  split
  · simp
  · simp [Instruction.linesAt, String.join_cons, String.append_assoc, Function.comp_def]

theorem textAt_eq (level : Nat) (instruction : Instruction) :
    instruction.textAt level = String.join ((instruction.written level).map fun line =>
      Instruction.lineAt line.1 line.2) := by
  cases instruction with
  | command | verbatim => exact commandAt_eq level _ _
  | comment => simp [Instruction.textAt, Instruction.written, Instruction.linesAt,
      Function.comp_def]
  | blank => rfl
  | line | openIf | orElse | closeIf => simp [Instruction.textAt, Instruction.written]

/-- The text of instructions joins the lines that are written, each at its level. -/
theorem textFrom_eq (level : Nat) (instructions : List Instruction) :
    textFrom level instructions = String.join ((writtenFrom level instructions).map fun line =>
      Instruction.lineAt line.1 line.2) := by
  induction instructions generalizing level with
  | nil => rfl
  | cons instruction rest inductionHypothesis =>
    rw [textFrom, writtenFrom, List.map_append, String.join_append, textAt_eq,
      inductionHypothesis]

end Writer

section Layout

variable {around left : List String} {lines : List Line}

theorem levelled_commandLines (name : String) (arguments : List String) :
    (Instruction.commandLines around name arguments).map Line.levelled =
      Instruction.commandWritten around.length name arguments := by
  unfold Instruction.commandLines Instruction.commandWritten
  dsimp only
  split
  · rfl
  · simp [Line.levelled]

/-- One instruction that has a place is written where it is laid out, and the level behind it is
again the number of open blocks. -/
theorem place?_eq {instruction : Instruction}
    (placed : instruction.place? around = some (lines, left)) :
    instruction.written around.length = lines.map Line.levelled ∧
      instruction.depthAfter around.length = left.length := by
  cases instruction with
  | line | blank | openIf =>
    cases placed
    exact ⟨rfl, rfl⟩
  | comment text =>
    cases placed
    exact ⟨by simp [Instruction.written, Line.levelled], rfl⟩
  | command | verbatim =>
    cases placed
    exact ⟨(levelled_commandLines _ _).symm, rfl⟩
  | orElse | closeIf =>
    cases around with
    | nil => cases placed
    | cons condition outer =>
      cases placed
      exact ⟨rfl, rfl⟩

/-- One instruction opens as many blocks as it starts, but for those that it ends. -/
theorem place?_count {instruction : Instruction}
    (placed : instruction.place? around = some (lines, left)) :
    around.length + [instruction].countP (·.isOpening) =
      left.length + [instruction].count .closeIf := by
  cases instruction with
  | line | blank | comment | command | verbatim | openIf =>
    cases placed
    rfl
  | orElse | closeIf =>
    cases around with
    | nil => cases placed
    | cons condition outer =>
      cases placed
      rfl

/-- Instructions are laid out by laying out the first and then the others. -/
theorem layout?_cons_eq_some_iff {instruction : Instruction} {rest : List Instruction} :
    layout? around (instruction :: rest) = some (lines, left) ↔
      ∃ first inner others, instruction.place? around = some (first, inner) ∧
        layout? inner rest = some (others, left) ∧ lines = first ++ others := by
  simp only [layout?, Option.bind_eq_bind, Option.bind_eq_some_iff, Option.pure_def,
    Option.some.injEq, Prod.mk.injEq, Prod.exists]
  constructor
  · rintro ⟨first, inner, placed, others, _, laid, rfl, rfl⟩
    exact ⟨first, inner, others, placed, laid, rfl⟩
  · rintro ⟨first, inner, others, placed, laid, rfl⟩
    exact ⟨first, inner, placed, others, left, laid, rfl, rfl⟩

/-- Instructions in two parts are laid out part by part. -/
theorem layout?_append_eq_some_iff {first second : List Instruction} :
    layout? around (first ++ second) = some (lines, left) ↔
      ∃ before inner behind, layout? around first = some (before, inner) ∧
        layout? inner second = some (behind, left) ∧ lines = before ++ behind := by
  induction first generalizing around lines with
  | nil =>
    constructor
    · intro laid
      exact ⟨[], around, lines, rfl, laid, rfl⟩
    · rintro ⟨before, inner, behind, laid, further, rfl⟩
      cases laid
      exact further
  | cons instruction rest inductionHypothesis =>
    rw [List.cons_append, layout?_cons_eq_some_iff]
    constructor
    · rintro ⟨here, inner, _, placed, laidBoth, rfl⟩
      obtain ⟨before, last, behind, laidRest, laidSecond, rfl⟩ := inductionHypothesis.mp laidBoth
      exact ⟨here ++ before, last, behind,
        layout?_cons_eq_some_iff.mpr ⟨here, inner, before, placed, laidRest, rfl⟩, laidSecond,
        (List.append_assoc _ _ _).symm⟩
    · rintro ⟨_, last, behind, laidFirst, laidSecond, rfl⟩
      obtain ⟨here, inner, before, placed, laidRest, rfl⟩ :=
        layout?_cons_eq_some_iff.mp laidFirst
      exact ⟨here, inner, before ++ behind, placed,
        inductionHypothesis.mpr ⟨before, last, behind, laidRest, laidSecond, rfl⟩,
        List.append_assoc _ _ _⟩

variable {instructions : List Instruction}

/-- Instructions that can be laid out are written where they are laid out, and the level behind
them is again the number of open blocks. -/
theorem layout?_eq (laid : layout? around instructions = some (lines, left)) :
    writtenFrom around.length instructions = lines.map Line.levelled ∧
      depthFrom around.length instructions = left.length := by
  induction instructions generalizing around lines with
  | nil =>
    cases laid
    exact ⟨rfl, rfl⟩
  | cons instruction rest inductionHypothesis =>
    obtain ⟨first, inner, others, placed, laidRest, rfl⟩ := layout?_cons_eq_some_iff.mp laid
    obtain ⟨writtenFirst, depthFirst⟩ := place?_eq placed
    obtain ⟨writtenRest, depthRest⟩ := inductionHypothesis laidRest
    constructor
    · rw [writtenFrom, writtenFirst, depthFirst, writtenRest, List.map_append]
    · rw [depthFrom, List.foldl_cons, depthFirst]
      exact depthRest

/-- Instructions that can be laid out open as many blocks as they start, but for those that they
end. -/
theorem layout?_count (laid : layout? around instructions = some (lines, left)) :
    around.length + instructions.countP (·.isOpening) =
      left.length + instructions.count .closeIf := by
  induction instructions generalizing around lines with
  | nil =>
    cases laid
    rfl
  | cons instruction rest inductionHypothesis =>
    obtain ⟨first, inner, others, placed, laidRest, rfl⟩ := layout?_cons_eq_some_iff.mp laid
    have here := place?_count placed
    have further := inductionHypothesis laidRest
    rw [← List.singleton_append, List.countP_append, List.count_append]
    omega

/-- Nested instructions can be laid out anywhere, and leave no block open. -/
theorem Nested.layout? (nested : Nested instructions) (around : List String) :
    ∃ lines, layout? around instructions = some (lines, around) := by
  induction nested generalizing around with
  | nil => exact ⟨[], rfl⟩
  | @plain instruction rest inner _ inductionHypothesis =>
    obtain ⟨first, placed⟩ : ∃ first, instruction.place? around = some (first, around) := by
      cases instruction with
      | openIf | orElse | closeIf => cases inner
      | line | blank | comment | command | verbatim => exact ⟨_, rfl⟩
    obtain ⟨others, laid⟩ := inductionHypothesis around
    exact ⟨first ++ others, layout?_cons_eq_some_iff.mpr ⟨first, around, others, placed, laid, rfl⟩⟩
  | block condition _ _ inside behind =>
    obtain ⟨inner, laidInside⟩ := inside (condition :: around)
    obtain ⟨others, laidBehind⟩ := behind around
    have closing : Instruction.closeIf.place? (condition :: around) =
        some ([{ around, text := "endif()" }], around) := rfl
    have closed := layout?_cons_eq_some_iff.mpr ⟨_, around, others, closing, laidBehind, rfl⟩
    have whole := layout?_append_eq_some_iff.mpr
      ⟨inner, condition :: around, _, laidInside, closed, rfl⟩
    exact ⟨_, layout?_cons_eq_some_iff.mpr ⟨_, condition :: around, _, rfl, whole, rfl⟩⟩

end Layout

/-- Instructions whose levels are right from level zero on. -/
structure Levelled (instructions : List Instruction) : Prop where
  /-- Every line is written at the level of the blocks that are open around it. -/
  lines : ∃ lines, layout? [] instructions = some (lines, []) ∧
    writtenFrom 0 instructions = lines.map Line.levelled
  /-- The other part and the end of a block are never written at level zero. -/
  above : ∀ before border behind, instructions = before ++ border :: behind →
    border = .orElse ∨ border = .closeIf → 0 < depthFrom 0 before
  /-- The level is zero at the end. -/
  ends : depthFrom 0 instructions = 0
  /-- As many blocks are ended as are started. -/
  balanced : instructions.countP (·.isOpening) = instructions.count .closeIf

/-- The levels of nested instructions are right. -/
theorem Nested.levelled {instructions : List Instruction} (nested : Nested instructions) :
    Levelled instructions where
  lines := by
    obtain ⟨lines, laid⟩ := nested.layout? []
    exact ⟨lines, laid, (layout?_eq laid).1⟩
  above := by
    rintro before border behind rfl isBorder
    obtain ⟨lines, laid⟩ := nested.layout? []
    obtain ⟨_, inner, _, laidBefore, laidBehind, rfl⟩ := layout?_append_eq_some_iff.mp laid
    obtain ⟨_, _, _, placed, -, -⟩ := layout?_cons_eq_some_iff.mp laidBehind
    have level : depthFrom 0 before = inner.length := (layout?_eq laidBefore).2
    rw [level, List.length_pos_iff]
    rintro rfl
    rcases isBorder with rfl | rfl <;> cases placed
  ends := nested.depthFrom_eq 0
  balanced := by
    obtain ⟨lines, laid⟩ := nested.layout? []
    simpa using layout?_count laid

namespace Source

theorem nested_body (source : Source) : Nested source.body.value := by
  have parts : source.body.value = source.directorySettings.value ++ source.sources.value ++
      [hook .postDefinitions, .blank] ++ (source.creation.value.toList ++ source.behindCreation) ++
        source.configurationBlocks ++ [hook .postTarget] := by
    simp [body, value_targetSection, configurationBlocks, List.flatMap]
  have hooked : Nested [hook .postDefinitions, .blank] := .plain rfl (.one rfl)
  have front := (source.nested_directorySettings.append source.nested_sources).append hooked
  have target := source.nested_creation.append source.nested_behindCreation
  have blocks : Nested source.configurationBlocks :=
    .flatMap fun configuration _ => source.nested_configurationBlock _ configuration
  have ending : Nested [hook .postTarget] := .one rfl
  rw [parts]
  exact ((front.append target).append blocks).append ending

/-- The text of a script is that of its head and, behind it, that of its body, each written from
level zero on by a writer of its own. In both, the levels are right: every line is written at the
level of the number of open blocks, or one deeper if it is an argument of a command that has a line
for each, neither the other part nor the end of a block is written at level zero, and at the end
the level is zero. So the whole script ends as many blocks as it starts. -/
theorem script_levelled (source : Source) (now : Nat) :
    let head := source.head now (asksForPlatform source.body.notes)
    let body := source.body.value
    (source.script now).value = head ++ body ∧
      (source.scriptText now).value =
        String.join ((writtenFrom 0 head).map fun line => Instruction.lineAt line.1 line.2) ++
          String.join ((writtenFrom 0 body).map fun line => Instruction.lineAt line.1 line.2) ∧
      Levelled head ∧ Levelled body ∧
      (source.script now).value.countP (·.isOpening) =
        (source.script now).value.count .closeIf := by
  intro head body
  have nestedHead : Nested head := source.nested_head now _
  have nestedBody : Nested body := source.nested_body
  have parts : (source.script now).value = head ++ body := rfl
  refine ⟨parts, ?_, nestedHead.levelled, nestedBody.levelled,
    (source.nested_script now).levelled.balanced⟩
  change text (source.script now).value = _
  rw [parts, text, nestedHead.textFrom_append, textFrom_eq, textFrom_eq]

end Source

end ProjectScribe.Script
