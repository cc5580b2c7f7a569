import ProjectScribe.Settings.Basic
import ProjectScribe.Json.Reader
import ProjectScribe.Text.Numeral

/-!
# Settings in JSON

An object has settings by their names; names that are no settings are passed over, but no setting
may be made twice. An array has the values of the first settings in their order.
-/
namespace ProjectScribe.Settings

open Json (Value)

/-- The text that a value is. -/
def textOf? : Value → Option String
  | .string content => content
  | _ => none

/-- The truth value that a value is. -/
def booleanOf? : Value → Option Bool
  | .boolean value => some value
  | _ => none

/-- The natural number below `2 ^ 32` that a value is. A sign, a fraction or an exponent makes it
none. -/
def naturalOf? : Value → Option Nat
  | .number literal =>
    if literal.toList.all Char.isDigit then
      let value := Text.digitsValue 0 literal.toList
      if value < UInt32.size then some value else none
    else none
  | _ => none

/-- What a value is, unless it is null. -/
def optional {α : Type} (read : Value → Option α) : Value → Option (Option α)
  | .null => some none
  | value => (read value).map some

/-- The settings by their names, in order: each changes the settings as its value says. -/
def fields : List (String × (Settings → Value → Option Settings)) :=
  [("authoritative_config", fun settings value => do
      return { settings with authoritative := ← textOf? value }),
    ("strict_validation", fun settings value => do
      return { settings with isStrict := ← booleanOf? value }),
    ("require_files", fun settings value => do
      return { settings with requiresFiles := ← booleanOf? value }),
    ("file_permissions", fun settings value => do
      return { settings with permissions := ← optional naturalOf? value }),
    ("emit_timestamp", fun settings value => do
      return { settings with emitsTimestamp := ← booleanOf? value }),
    ("emit_origin", fun settings value => do
      return { settings with emitsOrigin := ← booleanOf? value }),
    ("mapping_dir_name", fun settings value => do
      return { settings with mappingDir := ← textOf? value }),
    ("root_dir", fun settings value => do
      return { settings with root := ← optional textOf? value }),
    ("min_cmake_version", fun settings value => do
      return { settings with minimumVersion := ← textOf? value })]

/-- Settings changed by the members of an object. The names read before are listed. -/
def readMembers (settings : Settings) (before : List String) :
    List (Json.Content × Value) → Option Settings
  | [] => some settings
  | (name, value) :: rest => do
    let name ← name
    match fields.find? (·.1 = name) with
    | none => readMembers settings before rest
    | some (_, change) =>
      if name ∈ before then none else readMembers (← change settings value) (name :: before) rest

/-- Settings changed by the items of an array, each item for one of the given settings. -/
def readItems (settings : Settings) :
    List (String × (Settings → Value → Option Settings)) → List Value → Option Settings
  | _, [] => some settings
  | [], _ :: _ => none
  | (_, change) :: fields, value :: values => do readItems (← change settings value) fields values

/-- The settings that a JSON text makes; none if the text is not JSON or makes none. -/
def ofJson? (text : String) : Option Settings :=
  match Value.read? text with
  | some (.object members) => readMembers {} [] members
  | some (.array values) => readItems {} fields values
  | _ => none

end ProjectScribe.Settings
