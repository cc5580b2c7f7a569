import ProjectScribe.Reading.AttributeFormat
import ProjectScribe.Reading.ElementFormat
import ProjectScribe.Xml.Document

/-!
# Project files as texts

A text declares projects if it is a document, and in the newer format if the text of its companion
is one, too.
-/
namespace ProjectScribe.Reading

/-- The projects that a text in the older format declares. -/
def AttributeFormat.readText? (text : String) : Option (Reading (List Project)) :=
  (Xml.Element.read? text).map AttributeFormat.readProjects

/-- The projects that a text in the newer format declares together with its companion. -/
def ElementFormat.readText? (text : String) (companion : Option String) (fallback : String) :
    Option (Reading (List Project)) := do
  let document ← Xml.Element.read? text
  let filters ← companion.mapM Xml.Element.read?
  return ElementFormat.readProjects document filters fallback

end ProjectScribe.Reading
