import ConfigLayers.Text.Case
import ConfigLayers.Xml.Basic

/-! Properties as a document declares them. -/
namespace ConfigLayers

/-- A name with its value, if it has one, whether it is final, and the sources it is said to come from. -/
structure Declared where
  name : String
  value : Option String
  isFinal : Bool
  sources : List String
  deriving DecidableEq, Repr

namespace Declared

/-- What is known of a property while its fields are read. -/
structure Fields where
  name : Option String
  value : Option String
  isFinal : Bool
  sources : List String

def isTrue (s : String) : Bool :=
  Text.lower (Text.trim s) == "true"

def ofAttributes (attributes : List (Xml.Name × String)) : Fields where
  name := Xml.attribute? attributes "name"
  value := Xml.attribute? attributes "value"
  isFinal := isTrue ((Xml.attribute? attributes "final").getD "")
  sources := []

/-- Reads one child of a property. An empty value is none at all. -/
def Fields.read (f : Fields) : Xml.Node → Fields
  | .text _ => f
  | .element name _ content =>
    let text := Xml.Node.innerTexts content
    if name == Xml.Name.plain "name" then { f with name := some text }
    else if name == Xml.Name.plain "value" then { f with value := if text == "" then none else some text }
    else if name == Xml.Name.plain "final" then { f with isFinal := isTrue text }
    else if name == Xml.Name.plain "source" then { f with sources := f.sources ++ [Text.trim text] }
    else f

/-- The property of trimmed fields; without a name there is none. -/
def ofFields? (f : Fields) : Option Declared :=
  match f.name.map Text.trim with
  | none | some "" => none
  | some name => some ⟨name, f.value.map Text.trim, f.isFinal, f.sources⟩

/-- The property of an element. Its children count more than its attributes, and the last of one name most. -/
def ofElement? (attributes : List (Xml.Name × String)) (content : List Xml.Node) : Option Declared :=
  ofFields? (content.foldl Fields.read (ofAttributes attributes))

end Declared
end ConfigLayers
