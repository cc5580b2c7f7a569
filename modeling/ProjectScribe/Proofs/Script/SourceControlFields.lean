import ProjectScribe.Proofs.Script.ArgumentText
import ProjectScribe.Proofs.Script.TargetCommands

/-!
# Fields of a source control binding

The script of a project that is bound to a source control system sets a property of the target for
each field of the binding. Quotes in the value of a field get backslashes before them, backslashes
do not. So a field is read back as it is in the project exactly if no backslash in it comes to
stand before another one or before a quote, and if nothing breaks it where it is not quoted.
-/
namespace ProjectScribe.Script

open Instruction (commandAt setProperty)

/-- A value with a backslash before each quote is read back exactly if it survives that. -/
theorem readArgument_escapeQuotes_iff (value : String) :
    readArgument (argument (Source.escapeQuotes value)) = some value ↔
      IsReadBack value.toList := by
  rw [← argumentText?_quoteIfNeeded_iff, readArgument, argument, String.toList_ofList,
    toList_escapeQuotes, Option.map_eq_some_iff]
  constructor
  · rintro ⟨text, read, rfl⟩
    simpa using read
  · intro read
    exact ⟨value.toList, read, String.ofList_toList⟩

namespace Source

/-- The fields that a binding has, by the properties that hold them. -/
def statedFields (binding : SourceControl) : List (String × String) :=
  (bindingFields binding).filterMap fun field => field.2.map (field.1, ·)

/-- The properties are set in order, one for each field that the binding has. -/
theorem bindings_eq {source : Source}
    (present : source.project.sourceControl.isPresent = true) :
    source.bindings = (statedFields source.project.sourceControl).map fun field =>
      setProperty source.target field.1 (escapeQuotes field.2) := by
  rw [bindings, if_pos present, statedFields, List.map_filterMap,
    List.filterMap_eq_flatMap_toList]
  refine List.flatMap_congr fun field _ => ?_
  obtain ⟨property, value⟩ := field
  cases value with
  | none => rfl
  | some value => rfl

/-- Where a project is bound to a source control system and has a target, its script sets a
property for each field of the binding, in order, with an argument that says what the field says
exactly if the value of the field survives backslashes before its quotes. -/
theorem fields_read_iff (source : Source) (now : Nat)
    (present : source.project.sourceControl.isPresent = true)
    (created : source.creation.value.isSome = true) :
    (∃ before behind, (source.script now).value = before ++
      (statedFields source.project.sourceControl).map (fun field =>
        setProperty source.target field.1 (escapeQuotes field.2)) ++ behind) ∧
    ∀ field ∈ statedFields source.project.sourceControl,
      (∀ depth, (setProperty source.target field.1 (escapeQuotes field.2)).textAt depth =
        commandAt depth "set_property" (["TARGET", source.target, "PROPERTY", field.1].map
          argument ++ [argument (escapeQuotes field.2)])) ∧
      (readArgument (argument (escapeQuotes field.2)) = some field.2 ↔
        IsReadBack field.2.toList) := by
  refine ⟨⟨source.front now ++ source.creation.value.toList ++ source.linkLibraries.value,
    .blank :: (source.configurationBlocks ++ [hook .postTarget]), ?_⟩,
    fun field _ => ⟨fun _ => rfl, readArgument_escapeQuotes_iff field.2⟩⟩
  rw [← bindings_eq present, value_script, behind, behindCreation, if_pos created]
  simp only [List.append_assoc, List.cons_append, List.nil_append]

/-- A project with a target, bound to a source control system. -/
def bound (localPath : String) : Source where
  project := {
    name := "p"
    dialect := some .vcproj
    sourceControl := { projectName := some "\"Proj\", ABCD", localPath := some localPath }
    configurations := [{ buildType := "Debug", platform := "Win32", kind := .application }]
    hasBuildUnits := true }
  tables := {}
  settings := {}
  fileName := "p.vcproj"

theorem fields_read_bound :
    readArgument (argument (escapeQuotes "\"Proj\", ABCD")) = some "\"Proj\", ABCD" ∧
      readArgument (argument (escapeQuotes "..\\dir")) = some "..\\dir" := by
  obtain ⟨-, fields⟩ := fields_read_iff (bound "..\\dir") 0 rfl rfl
  have name := (fields ("VS_SCC_PROJECTNAME", "\"Proj\", ABCD") (by decide)).2
  have path := (fields ("VS_SCC_LOCALPATH", "..\\dir") (by decide)).2
  exact ⟨name.mpr (by decide), path.mpr (by decide)⟩

/-- Not every field is read back: two backslashes at the beginning of a path are read as one. -/
theorem serverPath_shortened :
    ¬ ∀ source : Source, source.project.sourceControl.isPresent = true →
      source.creation.value.isSome = true →
        ∀ field ∈ statedFields source.project.sourceControl,
          (∀ c ∈ field.2.toList, c ≠ '$' ∧ c ≠ ';') →
            readArgument (argument (escapeQuotes field.2)) = some field.2 := by
  intro kept
  have path := kept (bound "\\\\server\\share") rfl rfl
    ("VS_SCC_LOCALPATH", "\\\\server\\share") (by decide) (by simp)
  exact absurd path (by decide)

end Source

end ProjectScribe.Script
