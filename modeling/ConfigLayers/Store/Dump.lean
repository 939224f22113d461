import ConfigLayers.Json.Printer
import ConfigLayers.Store.Read
import ConfigLayers.Xml.Printer
import ConfigLayers.Yaml.Printer

/-! Writing a store: its properties with references replaced and the values of sensitive names masked. -/
namespace ConfigLayers
namespace Store

def sensitiveName : String := "security.sensitive-config-keys"

/-- The entries to write: all, or those that stand for a name that is not empty. -/
def chosen (s : Store) (c : Context) (name : Option String) : Outcome (List Declared) :=
  match name with
  | none | some "" => return s.snapshot
  | some name => do
    let targets ← c.deprecations.resolve name
    match s.snapshot.filter fun p => targets.contains p.name with
    | [] => throw (.propertyNotFound name)
    | found => return found

/-- An entry as it is written. -/
def masked (s : Store) (c : Context) (r : Redactor) (p : Declared) : Outcome Declared := do
  let value ← s.expand c (some r) p.value (some p.name)
  return { p with value := r.redact p.name value }

def maskedAll (s : Store) (c : Context) (r : Redactor) : List Declared → Outcome (List Declared)
  | [] => return []
  | p :: rest => do
    let first ← s.masked c r p
    return first :: (← maskedAll s c r rest)

def selected (s : Store) (c : Context) (name : Option String) : Outcome (List Declared) := do
  let found ← s.chosen c name
  let redactor ← Redactor.ofExpressions (← s.get c sensitiveName none)
  s.maskedAll c redactor found

end Store

namespace Declared

def field (tag : String) (text : Option String) : Xml.Node :=
  .element (Xml.Name.plain tag) [] (text.map Xml.Node.text).toList

def element (p : Declared) : Xml.Node :=
  .element (Xml.Name.plain "property") [] (
    [field "name" (some p.name), field "value" p.value,
      field "final" (some (if p.isFinal then "true" else "false"))]
    ++ p.sources.map fun source => field "source" (some source))

def isLegal (p : Declared) : Bool :=
  Xml.isLegal p.name && p.value.all Xml.isLegal && p.sources.all Xml.isLegal

def document (ps : List Declared) : Xml.Node :=
  .element (Xml.Name.plain "configuration") [] (ps.map element)

def unknownSource : String := "Unknown"

def toJson (p : Declared) : Json :=
  .record [("key", .text p.name), ("value", .ofOption p.value), ("isFinal", .bool p.isFinal),
    ("resource", .text (p.sources.getLast?.getD unknownSource)), ("sources", .list (p.sources.map .text))]

/-- All properties as one record, or the first of them if one was asked for. -/
def record (name : Option String) (ps : List Declared) : List (String × Json) :=
  match name, ps with
  | none, _ | some "", _ => [("properties", .list (ps.map toJson))]
  | some _, p :: _ => [("property", p.toJson)]
  | some _, [] => []

end Declared

inductive DumpFormat where
  | json
  | yaml
  deriving DecidableEq, Repr

namespace DumpFormat

def ofText (s : String) : Except Error DumpFormat :=
  match Text.lower s with
  | "json" => .ok json
  | "yaml" => .ok yaml
  | other => .error (.unsupportedFormat other)

def written (format : DumpFormat) (record : List (String × Json)) : String :=
  match format with
  | json => (Json.record record).inline
  | yaml => Yaml.document record

end DumpFormat

namespace Store

/-- The properties as a document that can be loaded again. -/
def writtenXml (s : Store) (c : Context) (name : Option String) : Outcome String := do
  let ps ← s.selected c name
  if ps.all Declared.isLegal then return (Declared.document ps).document else throw .illegalXmlText

def writtenRecords (s : Store) (c : Context) (name : Option String) (format : String) : Outcome String := do
  let format ← DumpFormat.ofText format
  return format.written (Declared.record name (← s.selected c name))

end Store
end ConfigLayers
