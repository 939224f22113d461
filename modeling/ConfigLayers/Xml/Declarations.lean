import ConfigLayers.Xml.Scan

/-! Declarations ahead of the root of a document: entities, and attributes with their defaults. Other
declarations are only checked. -/
namespace ConfigLayers
namespace Xml

/-- What a reference to an entity stands for. -/
inductive Entity where
  | text (content : List Char)
  /-- The characters of a file, unless they cannot be told from its bytes. -/
  | file (content : Option (List Char))
  /-- Data that is no markup and cannot be referred to. -/
  | data

/-- How an attribute is read: whether its blanks collapse, and its value where it is not written. -/
structure AttributeRule where
  owner : Written
  name : Written
  collapses : Bool
  default : Option (List Char)

structure Declarations where
  standalone : Bool
  entities : List (String × Entity)
  parameters : List (String × Entity)
  rules : List AttributeRule

/-- What reading declarations depends on: files by their locators, how many characters can be reached in
all, and how many may take the place of references. -/
structure Setting where
  read : String → Entity
  reach : Nat
  limit : Nat

/-- What an entity costs each time it is referred to, beside its length. -/
def referenceCost : Nat := 20

def predefined? (name : String) : Option Char :=
  [("lt", '<'), ("gt", '>'), ("amp", '&'), ("quot", '"'), ("apos", '\'')].lookup name

namespace Declarations

/-- Adds an entity. Of two by one name the first counts. -/
def addEntity (d : Declarations) (isParameter : Bool) (name : String) (entity : Entity) : Declarations :=
  let add (known : List (String × Entity)) :=
    if (known.lookup name).isSome then known else (name, entity) :: known
  if isParameter then { d with parameters := add d.parameters } else { d with entities := add d.entities }

def rule? (d : Declarations) (owner name : Written) : Option AttributeRule :=
  d.rules.find? fun r => r.owner == owner && r.name == name

def addRule (d : Declarations) (rule : AttributeRule) : Declarations :=
  if (d.rule? rule.owner rule.name).isSome then d else { d with rules := d.rules ++ [rule] }

end Declarations

namespace Scan

/-- The text of an entity as it is declared: references by number are replaced, those by name are kept. -/
def entityText : Nat → Scan (List Char)
  | 0 => refuse
  | fuel + 1 => do
    let before ← takeWhile fun c => c != '&' && c != '%'
    if ← atEnd then return before
    expect "&"
    if ← accept "#" then
      let c ← numbered
      return before ++ c :: (← entityText fuel)
    else
      let name ← entityName
      return before ++ ('&' :: name.toList ++ ';' :: (← entityText fuel))

/-- The characters of an entity referred to in an attribute. -/
def attributeEntity (d : Declarations) (name : String) (inside : List String) : Scan (List Char) :=
  match d.entities.lookup name with
  | some (.text content) => do
    require !(inside.contains name)
    return content
  | _ => refuse

/-- The text of an attribute: a blank is a space, and a reference is what it stands for. -/
def attributeText (s : Setting) (d : Declarations) : Nat → List String → Scan (List Char)
  | 0, _ => refuse
  | fuel + 1, inside => do
    let before := (← takeWhile fun c => c != '&' && c != '<').map fun c => if isSpace c then ' ' else c
    if ← atEnd then return before
    expect "&"
    if ← accept "#" then
      let c ← numbered
      return before ++ c :: (← attributeText s d fuel inside)
    else
      let name ← entityName
      match predefined? name with
      | some c => return before ++ c :: (← attributeText s d fuel inside)
      | none =>
        let content ← attributeEntity d name inside
        charge (content.length + referenceCost) s.limit
        let middle ← within content (attributeText s d fuel (name :: inside))
        return before ++ middle ++ (← attributeText s d fuel inside)

def isPublicChar (c : Char) : Bool :=
  c.isAlphanum || " \n\r-'()+,./:=?;!*#@$_%".toList.contains c

def isLocatorChar (c : Char) : Bool :=
  c.isAlphanum || "-._~:/?[]@!$&'()*+,;=%".toList.contains c

/-- Where a declaration says that something else is found. -/
def outside : Scan (Option String) := do
  if ← accept "SYSTEM" then
    requireSpaces
    return some (String.ofList (← literal))
  else if ← accept "PUBLIC" then
    requireSpaces
    let id ← literal
    require (id.all isPublicChar)
    requireSpaces
    return some (String.ofList (← literal))
  else return none

/-- Some other place than this document, read as an entity. -/
def outsideEntity (s : Setting) (isParameter : Bool) : Scan Entity := do
  match ← outside with
  | none => refuse
  | some locator =>
    require (locator.toList.all isLocatorChar)
    let blank ← spaces
    if ← accept "NDATA" then
      require (blank && !isParameter)
      requireSpaces
      let _ ← part
      return .data
    else return s.read locator

def entityDeclared (s : Setting) (d : Declarations) : Scan Declarations := do
  requireSpaces
  let isParameter ← accept "%"
  if isParameter then requireSpaces
  let name ← part
  requireSpaces
  let quoted := (← peek) == some '"' || (← peek) == some '\''
  let entity ← (if quoted then do
      let text ← literal
      return Entity.text (← within text (entityText (text.length + 1)))
    else outsideEntity s isParameter)
  skipSpaces
  expect ">"
  return d.addEntity isParameter name entity

/-- Names with bars between them, up to a closing bracket. -/
def choices : Nat → Scan Unit
  | 0 => refuse
  | fuel + 1 => do
    skipSpaces
    let name ← takeWhile isNameChar
    require !name.isEmpty
    skipSpaces
    if ← accept "|" then choices fuel else expect ")"

/-- The type of an attribute; all but one let blanks collapse. -/
def attributeType (fuel : Nat) : Scan Bool := do
  if ← accept "(" then
    choices fuel
    return true
  else
    let word ← part
    if word == "NOTATION" then
      requireSpaces
      expect "("
      choices fuel
      return true
    else
      require (["CDATA", "ID", "IDREF", "IDREFS", "ENTITY", "ENTITIES", "NMTOKEN", "NMTOKENS"].contains word)
      return word != "CDATA"

def attributeDefault (s : Setting) (d : Declarations) : Scan (Option (List Char)) := do
  if ← acceptAny ["#REQUIRED", "#IMPLIED"] then return none
  else
    if ← accept "#FIXED" then requireSpaces
    let text ← literal
    return some (← within text (attributeText s d (s.reach + 1) []))

def attributesDeclared (s : Setting) (owner : Written) : Nat → Declarations → Scan Declarations
  | 0, _ => refuse
  | fuel + 1, d => do
    let blank ← spaces
    if ← accept ">" then return d
    require blank
    let name ← qualified
    requireSpaces
    let collapses ← attributeType s.reach
    requireSpaces
    let default ← attributeDefault s d
    attributesDeclared s owner fuel (d.addRule ⟨owner, name, collapses, default⟩)

def repetition : Scan Unit := do
  let _ ← acceptAny ["?", "*", "+"]

/-- The parts of an element's content behind an opening bracket, all with the same mark between them. -/
def contentModel : Nat → Option String → Scan Unit
  | 0, _ => refuse
  | fuel + 1, mark => do
    skipSpaces
    if ← accept "(" then contentModel fuel none
    else
      let _ ← qualified
      repetition
    skipSpaces
    if ← accept ")" then repetition
    else match mark with
      | some mark =>
        expect mark
        contentModel fuel (some mark)
      | none =>
        if ← accept "|" then contentModel fuel (some "|")
        else
          expect ","
          contentModel fuel (some ",")

/-- Names of elements mixed with text. -/
def mixedModel : Nat → Bool → Scan Unit
  | 0, _ => refuse
  | fuel + 1, named => do
    skipSpaces
    if ← accept ")" then
      if !(← accept "*") then require !named
    else
      expect "|"
      skipSpaces
      let _ ← qualified
      mixedModel fuel true

def elementDeclared (s : Setting) : Scan Unit := do
  requireSpaces
  let _ ← qualified
  requireSpaces
  if ← acceptAny ["EMPTY", "ANY"] then skipSpaces
  else
    expect "("
    skipSpaces
    if ← accept "#PCDATA" then mixedModel s.reach false
    else contentModel s.reach none
  skipSpaces
  expect ">"

def notationDeclared : Scan Unit := do
  requireSpaces
  let _ ← part
  requireSpaces
  if ← accept "SYSTEM" then
    requireSpaces
    let _ ← literal
  else
    expect "PUBLIC"
    requireSpaces
    let id ← literal
    require (id.all isPublicChar)
    skipSpaces
    if !(← looksAt ">") then
      let _ ← literal
  skipSpaces
  expect ">"

/-- Declarations up to a closing bracket or the end of the text. -/
def declarations (s : Setting) : Nat → List String → Declarations → Scan Declarations
  | 0, _, _ => refuse
  | fuel + 1, inside, d => do
    skipSpaces
    if (← atEnd) || (← looksAt "]") then return d
    else if ← accept "<!ENTITY" then declarations s fuel inside (← entityDeclared s d)
    else if ← accept "<!ATTLIST" then
      requireSpaces
      let owner ← qualified
      declarations s fuel inside (← attributesDeclared s owner s.reach d)
    else if ← accept "<!ELEMENT" then
      elementDeclared s
      declarations s fuel inside d
    else if ← accept "<!NOTATION" then
      notationDeclared
      declarations s fuel inside d
    else if ← accept "<!--" then
      comment
      declarations s fuel inside d
    else if ← accept "<?" then
      instruction
      declarations s fuel inside d
    else
      expect "%"
      let name ← entityName
      require !(inside.contains name)
      match d.parameters.lookup name with
      | some (.text content) | some (.file (some content)) =>
        charge (content.length + referenceCost) s.limit
        let d ← within content (declarations s fuel (name :: inside) d)
        declarations s fuel inside d
      | none =>
        require !d.standalone
        declarations s fuel inside d
      | _ => refuse

/-- The declarations between the name of the root and the root. -/
def documentType (s : Setting) (d : Declarations) : Scan Declarations := do
  requireSpaces
  let _ ← qualified
  skipSpaces
  let _ ← outside
  skipSpaces
  let d ← (if ← accept "[" then do
      let d ← declarations s (s.reach + 1) [] d
      expect "]"
      return d
    else return d)
  skipSpaces
  expect ">"
  return d

end Scan
end Xml
end ConfigLayers
