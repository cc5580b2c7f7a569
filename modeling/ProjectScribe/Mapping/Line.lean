import ProjectScribe.Text.Blank
import ProjectScribe.Text.Pieces

/-!
# Lines of a mapping table

A line `key:platform=replacement|platform|...` says what becomes of a token on each platform. The
key ends at the first colon that is not the colon of a drive letter, as in `C:/inc`. Lines without
such a colon, comments and lines with an empty key say nothing.

`Line.text` writes a line in the form that `Line.parse?` reads.
-/
namespace ProjectScribe.Mapping

/-- What happens to a token on one platform: without a replacement it stays, an empty replacement
removes it. An empty platform name stands for every platform. -/
structure Segment where
  platform : String
  replacement : Option String
deriving DecidableEq, Repr

/-- A key and what becomes of the tokens it covers. -/
structure Line where
  key : String
  segments : List Segment
deriving DecidableEq, Repr

/-- What stands before and after the colon that ends the key. The colon after a drive letter,
which a slash or a backslash follows, does not end it. -/
def cutKey : List Char → Option (List Char × List Char)
  | drive :: ':' :: slash :: rest =>
    if drive.isAlpha && (slash == '/' || slash == '\\') then
      (Text.cutAt ':' (slash :: rest)).map fun (before, after) => (drive :: ':' :: before, after)
    else Text.cutAt ':' (drive :: ':' :: slash :: rest)
  | line => Text.cutAt ':' line

/-- One segment: a platform name, and a replacement after the first equals sign. -/
def Segment.parse (text : List Char) : Segment :=
  match Text.cutAt '=' (Text.trim text) with
  | some (platform, replacement) =>
    ⟨String.ofList (Text.trim platform), some (String.ofList (Text.trim replacement))⟩
  | none => ⟨String.ofList (Text.trim text), none⟩

/-- The mapping that a line of text states, if it states one. -/
def Line.parse? (text : List Char) : Option Line :=
  let line := Text.trim text
  if line.head? == none || line.head? == some '#' then none
  else
    match cutKey line with
    | none => none
    | some (before, after) =>
      let key := Text.trim before
      if key.isEmpty then none
      else some ⟨String.ofList key, (Text.pieces (· == '|') after).map Segment.parse⟩

/-- A segment as it is written in a line. -/
def Segment.text (segment : Segment) : String :=
  match segment.replacement with
  | none => segment.platform
  | some replacement => segment.platform ++ "=" ++ replacement

/-- A mapping as a line of text. -/
def Line.text (line : Line) : String :=
  line.key ++ ":" ++ "|".intercalate (line.segments.map Segment.text)

example : Line.parse? "foo:WIN32=bar|LINUX".toList =
    some ⟨"foo", [⟨"WIN32", some "bar"⟩, ⟨"LINUX", none⟩]⟩ := by decide
example : Line.parse? "C:/boost/include:UNIX=/usr/include".toList =
    some ⟨"C:/boost/include", [⟨"UNIX", some "/usr/include"⟩]⟩ := by decide
example : Line.parse? "X:=".toList = some ⟨"X", [⟨"", some ""⟩]⟩ := by decide
example : Line.parse? "# comment:x".toList = none := by decide

end ProjectScribe.Mapping
