import ConfigLayers.Document.Declared
import ConfigLayers.Document.Source
import ConfigLayers.Notice

/-! The properties that a document declares, with those of the documents it includes in their place. -/
namespace ConfigLayers
namespace Loader

/-- What loading depends on beside the document. -/
structure Surroundings where
  resolver : Resolver
  world : World

def inclusionSpace : String := "http://www.w3.org/2001/XInclude"

/-- What an element of a document is there for. -/
inductive Role where
  | property
  | configuration
  | inclusion
  | fallback
  | unknown
  deriving DecidableEq, Repr

def roleOf (name : Xml.Name) : Role :=
  if name == Xml.Name.plain "property" then .property
  else if name == Xml.Name.plain "configuration" then .configuration
  else if name == ⟨inclusionSpace, "include"⟩ then .inclusion
  else if name == ⟨inclusionSpace, "fallback"⟩ then .fallback
  else .unknown

/-- The documents that a target may mean, in the order in which they are tried. -/
def candidates (home : Path) (target : String) (base : Option String) : Except Error (List Resource) := do
  if Url.isLocator target then return [← Resource.ofUri target]
  else if (Path.parse target).isAbsolute then return [Resource.ofPath home target]
  else
    let byName := Resource.ofName target false
    match base with
    | none | some "" => return [byName]
    | some base =>
      if Url.isLocator base then return [← Resource.ofUri (← Url.join base target), byName]
      else
        let near := (Path.parse base).parent.join (Path.parse target)
        return [Resource.ofPath home near.text, byName]

/-- The first document that can be fetched. Only that one is not available lets the next be tried. -/
def firstFetched (s : Surroundings) : List Resource → Except Error (Option (Resource × Fetched))
  | [] => .ok none
  | r :: rest => match r.fetch s.resolver s.world with
    | .ok fetched => .ok (some (r, fetched))
    | .error e => if e.kind == .resourceUnavailable then firstFetched s rest else .error e

def tree (s : Surroundings) (label : String) (fetched : Fetched) : Except Error Xml.Node :=
  match fetched.tree? s.world.files with
  | some root => .ok root
  | none => .error (.malformedDocument label)

/-- Walks over some content, given the base of its document. -/
abbrev Walker := Option String → List Xml.Node → Outcome (List Declared)

/-- The content of the document that an inclusion means; none if no candidate can be fetched. -/
def included (s : Surroundings) (inner : Walker) (base : Option String) (target : String) :
    Outcome (Option (List Declared)) := do
  if target == "" then throw .includeWithoutTarget
  let tried ← candidates s.world.files.home target base
  match ← firstFetched s tried with
  | none => return none
  | some (r, fetched) => match ← tree s r.sourceName fetched with
    | .element _ _ content => return some (← inner fetched.base content)
    | .text _ => return some []

def firstFallback? : List Xml.Node → Option (List Xml.Node)
  | [] => none
  | .text _ :: rest => firstFallback? rest
  | .element name _ content :: rest => if roleOf name == .fallback then some content else firstFallback? rest

/-- What stands in for a document that is not available. -/
def loadFallback (inner : Walker) (base : Option String) (target : String) (content : List Xml.Node) :
    Outcome (List Declared) :=
  match firstFallback? content with
  | some instead => inner base instead
  | none => throw (.includeUnavailable target base)

/-- What one node declares, where `nested` walks over a configuration in the document, and `inner` over what an
inclusion stands for. -/
def loadNode (s : Surroundings) (nested inner : Walker) (base : Option String) : Xml.Node → Outcome (List Declared)
  | .text _ => return []
  | .element name attributes content => match roleOf name with
    | .property => return (Declared.ofElement? attributes content).toList
    | .configuration => nested base content
    | .inclusion => do
      let target := Text.trim ((Xml.attribute? attributes "href").getD "")
      match ← included s inner base target with
      | some declared => return declared
      | none => loadFallback inner base target content
    | .fallback => return []
    | .unknown => do
      Outcome.notify .warning .loader ("bad conf file: element not <property>: " ++ name.text)
      return []

def loadNodes (s : Surroundings) (nested inner : Walker) (base : Option String) :
    List Xml.Node → Outcome (List Declared)
  | [] => return []
  | n :: rest => do
    let first ← loadNode s nested inner base n
    return first ++ (← loadNodes s nested inner base rest)

/-- Walks over content with so many calls inside one another: one for each content that is walked over, and one more for
an inclusion around it. -/
def loadContent (s : Surroundings) : Nat → Walker
  | 0 => fun _ _ => throw .nestingTooDeep
  | 1 => loadNodes s (loadContent s 0) (loadContent s 0)
  | calls + 2 => loadNodes s (loadContent s (calls + 1)) (loadContent s calls)

/-- All properties that a document declares, in order, with room for so many calls inside the walk over its root. -/
def loadWithin (s : Surroundings) (room : Nat) (r : Resource) : Outcome (List Declared) := do
  let fetched ← Traced.ofExcept (r.fetch s.resolver s.world)
  match ← tree s r.sourceName fetched with
  | .text _ => throw (.malformedDocument r.sourceName)
  | .element name _ content =>
    if name == Xml.Name.plain "configuration" then loadContent s (room + 1) fetched.base content
    else throw (.wrongRoot r.sourceName name.text)

def load (s : Surroundings) (r : Resource) : Outcome (List Declared) :=
  loadWithin s s.world.room r

end Loader
end ConfigLayers
