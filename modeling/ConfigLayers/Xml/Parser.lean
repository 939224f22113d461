import ConfigLayers.Xml.Declarations
import ConfigLayers.Xml.Encoding

/-! The tree of a document. Namespaces are resolved, entities replaced, comments and instructions dropped. -/
namespace ConfigLayers
namespace Xml

abbrev Scope := List (String × String)

namespace Scope

def markup : String := "http://www.w3.org/XML/1998/namespace"

def scopes : String := "http://www.w3.org/2000/xmlns/"

def initial : Scope := [("xml", markup)]

/-- The namespace of a short name; no name at all means none unless one is declared. -/
def find? (s : Scope) (space : String) : Option String :=
  match s.lookup space with
  | some found => some found
  | none => if space == "" then some "" else none

def resolve? (s : Scope) (n : Written) : Option Name :=
  (s.find? n.space).map fun space => ⟨space, n.base⟩

def resolveAttribute? (s : Scope) (n : Written) : Option Name :=
  if n.space == "" then some (Name.plain n.base) else s.resolve? n

/-- Adds the namespace that an attribute declares, if it declares one. -/
def declare? (s : Scope) (n : Written) (value : String) : Option Scope :=
  let reserved := value == markup || value == scopes
  if n == ⟨"", "xmlns"⟩ then if reserved then none else some (("", value) :: s)
  else if n.space == "xmlns" then
    if n.base == "xml" then if value == markup then some s else none
    else if reserved || n.base == "xmlns" || value == "" then none
    else some ((n.base, value) :: s)
  else some s

def isDeclaration (n : Written) : Bool :=
  n == ⟨"", "xmlns"⟩ || n.space == "xmlns"

end Scope

/-- How many elements may be around an element. -/
def maxDepth : Nat := 256

def collapse (cs : List Char) : List Char :=
  ([' '].intercalate ((cs.splitOnP (· == ' ')).filter (!·.isEmpty)))

namespace Scan

/-- Attributes as they are written, up to the end of a tag. -/
def attributes : Nat → Scan (List (Written × List Char))
  | 0 => refuse
  | fuel + 1 => do
    let blank ← spaces
    if (← looksAt ">") || (← looksAt "/>") then return []
    else
      require blank
      let name ← qualified
      equals
      let value ← literal
      return (name, value) :: (← attributes fuel)

def attributeValue (s : Setting) (d : Declarations) (owner name : Written) (raw : List Char) :
    Scan (Written × String) := do
  let value ← within raw (attributeText s d (s.reach + 1) [])
  let collapses := ((d.rule? owner name).map AttributeRule.collapses).getD false
  return (name, String.ofList (if collapses then collapse value else value))

/-- The attributes of an element that it does not have but has by default. -/
def missing (d : Declarations) (owner : Written) (given : List (Written × String)) : List (Written × String) :=
  d.rules.filterMap fun r => match r.default with
    | some value =>
      if r.owner == owner && (given.lookup r.name).isNone then
        some (r.name, String.ofList (if r.collapses then collapse value else value))
      else none
    | none => none

def ofOption {α : Type} : Option α → Scan α
  | some a => return a
  | none => refuse

/-- The name of an element, its attributes and the namespaces inside it. -/
def resolved (s : Setting) (d : Declarations) (scope : Scope) (tag : Written)
    (raws : List (Written × List Char)) : Scan (Name × List (Name × String) × Scope) := do
  let given ← raws.mapM fun (name, raw) => attributeValue s d tag name raw
  let all := given ++ missing d tag given
  require (decide (all.map Prod.fst).Nodup)
  let scope ← ofOption (all.foldlM (fun scope (name, value) => Scope.declare? scope name value) scope)
  let name ← ofOption (scope.resolve? tag)
  let plain := all.filter fun (name, _) => !Scope.isDeclaration name
  let attributes ← plain.mapM fun (name, value) => return (← ofOption (scope.resolveAttribute? name), value)
  require (decide (attributes.map Prod.fst).Nodup)
  return (name, attributes, scope)

/-- The characters of an entity referred to between tags. -/
def contentEntity (d : Declarations) (name : String) (inside : List String) : Scan (List Char) :=
  match d.entities.lookup name with
  | some (.text content) | some (.file (some content)) => do
    require !(inside.contains name)
    return normalizeLines content
  | _ => refuse

mutual

/-- Content up to an end tag or the end of the text. -/
def content (s : Setting) (d : Declarations) : Nat → Scope → Nat → List String → Scan (List Node)
  | 0, _, _, _ => refuse
  | fuel + 1, scope, depth, inside => do
    let chars ← takeWhile fun c => c != '<' && c != '&'
    require (chars.all isChar && (cutAt "]]>".toList chars).isNone)
    let before := if chars.isEmpty then [] else [Node.text (String.ofList chars)]
    if (← atEnd) || (← looksAt "</") then return before
    else
      let nodes ← item s d fuel scope depth inside
      return before ++ nodes ++ (← content s d fuel scope depth inside)

/-- What begins with a mark in content. -/
def item (s : Setting) (d : Declarations) : Nat → Scope → Nat → List String → Scan (List Node)
  | 0, _, _, _ => refuse
  | fuel + 1, scope, depth, inside => do
    if ← accept "<!--" then
      comment
      return []
    else if ← accept "<![CDATA[" then
      return [.text (String.ofList (← upTo "]]>"))]
    else if ← accept "<?" then
      instruction
      return []
    else if ← accept "<" then
      return [← element s d fuel scope depth inside]
    else if ← accept "&#" then
      return [.text (String.singleton (← numbered))]
    else
      expect "&"
      let name ← entityName
      match predefined? name with
      | some c => return [.text (String.singleton c)]
      | none =>
        let text ← contentEntity d name inside
        charge (text.length + referenceCost) s.limit
        within text (content s d fuel scope depth (name :: inside))

/-- An element after the mark that opens its tag. -/
def element (s : Setting) (d : Declarations) : Nat → Scope → Nat → List String → Scan Node
  | 0, _, _, _ => refuse
  | fuel + 1, scope, depth, inside => do
    require (depth ≤ maxDepth)
    let tag ← qualified
    let raws ← attributes s.reach
    let (name, attributes, scope) ← resolved s d scope tag raws
    if ← accept "/>" then return .element name attributes []
    else
      expect ">"
      let nodes ← content s d fuel scope (depth + 1) inside
      expect "</"
      require ((← qualified) == tag)
      skipSpaces
      expect ">"
      return .element name attributes nodes

end

/-- The root of a document, with what may stand before and behind it. -/
def document (s : Setting) : Scan Node := do
  let first ← declaration
  miscellany s.reach
  let d : Declarations := ⟨first.standalone, [], [], []⟩
  let d ← (if ← accept "<!DOCTYPE" then documentType s d else return d)
  miscellany s.reach
  expect "<"
  let root ← element s d (3 * s.reach) Scope.initial 0 []
  miscellany s.reach
  require (← atEnd)
  return root

end Scan

/-- How many characters may always take the place of references, and how many times the length of a
document if that is more. -/
def expansionLimit (length : Nat) : Nat :=
  max 1000000 (5 * length)

/-- The root of a document, or none if it is malformed. `read` finds entities in files by their locators,
and `reach` bounds the length of all those files together. -/
def parse? (read : String → Entity) (reach : Nat) (text : List Char) : Option Node :=
  (Scan.document ⟨read, text.length + reach + 1, expansionLimit text.length⟩).read? text

/-- The root of a document in bytes, whose encoding may be known to be UTF-8. -/
def ofBytes? (read : String → Entity) (reach : Nat) (isUtf8 : Bool) (bytes : Bytes) : Option Node :=
  (characters? isUtf8 Scan.declaration bytes).bind (parse? read reach)

def Entity.ofBytes (bytes : Bytes) : Entity :=
  .file do
    let cs ← characters? false Scan.entityDeclaration bytes
    Scan.read? (do let _ ← Scan.entityDeclaration; Scan.rest) cs

end Xml
end ConfigLayers
