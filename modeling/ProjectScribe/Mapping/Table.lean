import ProjectScribe.Mapping.Line
import ProjectScribe.Mapping.PlatformTokens
import ProjectScribe.Pattern.Reader

/-!
# Mapping tables

A table is a list of entries. An entry belongs to a token if its key is the token, or else if its
key, read as a pattern, describes the whole token; an entry found by its key comes before every
entry found by its pattern, and among entries found in the same way the first one counts. A token
without an entry stays as it is on every platform.
-/
namespace ProjectScribe.Mapping

/-- A line of a table with the test for the tokens that its key describes as a pattern. -/
structure Entry where
  line : Line
  fits : String → Bool

/-- The entry of a line. A key that is no pattern describes no token. -/
def Entry.ofLine (line : Line) : Entry :=
  match Pattern.ofKey? line.key with
  | none => ⟨line, fun _ => false⟩
  | some pattern => ⟨line, fun token => pattern.occursIn token.toList⟩

/-- The entries of a table, in the order in which they are tried. -/
structure Table where
  entries : List Entry := []

namespace Table

/-- The table without entries. -/
def empty : Table := ⟨[]⟩

/-- The table that a text states, one entry for each line that states a mapping. -/
def parse (text : String) : Table :=
  ⟨((Text.lines text.toList).filterMap Line.parse?).map Entry.ofLine⟩

/-- A table continued by another. -/
def append (first second : Table) : Table := ⟨first.entries ++ second.entries⟩

/-- How many entries a table has. -/
def size (table : Table) : Nat := table.entries.length

/-- Whether a table has no entries. -/
def isEmpty (table : Table) : Bool := table.entries.isEmpty

/-- The entry of a token: the first with this key, or else the first whose pattern fits. -/
def lookup (table : Table) (token : String) : Option Entry :=
  (table.entries.find? (·.line.key = token)).or (table.entries.find? (·.fits token))

/-- What one segment makes of a token: the platform and the token that stands for it there. -/
def placeSegment (token : String) (segment : Segment) : Option (String × String) :=
  let platform := if segment.platform = "" then everyPlatform else segment.platform
  match segment.replacement with
  | none => some (platform, token)
  | some "" => none
  | some replacement => some (platform, replacement)

/-- What a table makes of a token: pairs of a platform and the token that stands for it there. -/
def placements (table : Table) (token : String) : List (String × String) :=
  match table.lookup token with
  | none => [(everyPlatform, token)]
  | some entry => entry.line.segments.filterMap (placeSegment token)

/-- Add to gathered tokens what a table makes of one more. -/
def resolveInto (table : Table) (token : String) (gathered : PlatformTokens) : PlatformTokens :=
  gathered.pushAll (table.placements token)

/-- What a table makes of one token. -/
def resolve (table : Table) (token : String) : PlatformTokens :=
  table.resolveInto token .empty

/-- A segment speaks of the platform that it names, or of every one if it names none. There the
token stays if nothing is to replace it, and is gone if the replacement is empty. -/
theorem placeSegment_eq_some_iff {segment : Segment} {token platform text : String} :
    placeSegment token segment = some (platform, text) ↔
      platform = (if segment.platform = "" then "ALL" else segment.platform) ∧
      (segment.replacement = none ∧ text = token ∨
        segment.replacement = some text ∧ text ≠ "") := by
  obtain ⟨name, replacement⟩ := segment
  rw [placeSegment]
  split
  · next keeps =>
    obtain rfl : replacement = none := keeps
    simp [everyPlatform, eq_comm]
  · next drops =>
    obtain rfl : replacement = some "" := drops
    simp +contextual
  · next other filled replaces =>
    obtain rfl : replacement = some other := replaces
    simp only [everyPlatform, Option.some.injEq, Prod.mk.injEq, reduceCtorEq, false_and, false_or]
    constructor
    · rintro ⟨rfl, rfl⟩
      exact ⟨rfl, rfl, filled⟩
    · rintro ⟨rfl, rfl, -⟩
      exact ⟨rfl, rfl⟩

example : ((parse "ws2_.*:=sockets\nws2_32:WIN32").resolve "ws2_32").toList =
    [("WIN32", ["ws2_32"])] := by cbv
example : ((parse "boost_.*:UNIX=boost").resolve "libboost_x").toList =
    [("ALL", ["libboost_x"])] := by cbv
example : ((parse "WIN32:WIN32|UNIX=").resolve "WIN32").toList = [("WIN32", ["WIN32"])] := by cbv

end Table

/-- The four tables of a conversion. -/
structure Tables where
  includeDirs : Table := .empty
  dependencies : Table := .empty
  libraryDirs : Table := .empty
  defines : Table := .empty

/-- The four tables, each found by the name of its file. -/
def Tables.ofNamed (table : String → Table) : Tables :=
  { includeDirs := table "include_mappings.txt"
    dependencies := table "dependency_mappings.txt"
    libraryDirs := table "library_directory_mappings.txt"
    defines := table "define_mappings.txt" }

end ProjectScribe.Mapping
