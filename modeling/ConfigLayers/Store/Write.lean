import ConfigLayers.Duration
import ConfigLayers.Endpoint
import ConfigLayers.Pattern.Matcher
import ConfigLayers.Store.Read

/-! Values set by a program. They go to the overlay too, so that they stay over the values of documents. -/
namespace ConfigLayers
namespace Store

def programSource : String := "programmatically"

/-- Writes an entry under a name and into the overlay, unless the name is final. -/
def assign (e : Entry) (s : Store) (name : String) : Store :=
  if s.isFinal name then s
  else { s with entries := s.entries.insert name e, overlay := s.overlay.insert name e }

def assignAll (s : Store) (e : Entry) (names : List String) : Store :=
  names.foldl (assign e) s

/-- The sources of a value that is set under a name for some others. -/
def setSources (name : String) (targets : List String) (source : Option String) : List String :=
  let source := match source with
    | some "" | none => programSource
    | some source => source
  if targets == [name] then [source] else [source, "because " ++ name ++ " is deprecated"]

/-- Sets a value under a trimmed name, or under the names that replace it. -/
def set (s : Store) (d : Deprecations) (name value source : Option String) : Outcome Store :=
  match name with
  | none => throw .nullName
  | some name => do
    let name := Text.trim name
    if value.isNone && !s.allowsNull then throw (.nullValue name)
    let targets ← d.resolve name
    return s.assignAll ⟨value, setSources name targets source⟩ targets

/-- Sets a value where a read of the name as it is given finds none. -/
def setIfUnset (s : Store) (c : Context) (name value : Option String) : Outcome Store :=
  match name with
  | none => throw .nullName
  | some given => do
    match ← s.get c given none with
    | none => s.set c.deprecations name value none
    | some _ => return s

def remove (s : Store) (name : String) : Store :=
  { s with entries := s.entries.erase name, overlay := s.overlay.erase name }

/-- Removes a name, or the names that replace it; a final name stays final. -/
def unset (s : Store) (d : Deprecations) (name : Option String) : Outcome Store :=
  match name with
  | none => throw .nameRequired
  | some name => do
    return (← d.resolve (Text.trim name)).foldl remove s

/-- Removes all names and forgets which were final. The documents stay known. -/
def clear (s : Store) : Store :=
  { s with entries := ∅, finals := [], overlay := ∅ }

def boolText (b : Bool) : String :=
  if b then "true" else "false"

def setInt (s : Store) (d : Deprecations) (name : Option String) (n : Int) : Outcome Store :=
  s.set d name (some (Integer.text n)) none

def setReal (s : Store) (d : Deprecations) (name : Option String) (x : Float) : Outcome Store :=
  s.set d name (some (Binary64.text x)) none

def setBoolean (s : Store) (d : Deprecations) (name : Option String) (b : Bool) : Outcome Store :=
  s.set d name (some (boolText b)) none

def setBooleanIfUnset (s : Store) (c : Context) (name : Option String) (b : Bool) : Outcome Store :=
  s.setIfUnset c name (some (boolText b))

def setDuration (s : Store) (d : Deprecations) (name : Option String) (amount : Int) (unit : TimeUnit) :
    Outcome Store :=
  s.set d name (some (Duration.format amount unit)) none

def setItems (s : Store) (d : Deprecations) (name : Option String) (items : List String) : Outcome Store :=
  s.set d name (some (Text.join "," items)) none

def setPattern (s : Store) (d : Deprecations) (name : Option String) (p : Pattern) : Outcome Store :=
  s.set d name (some p.source) none

def setEndpoint (s : Store) (d : Deprecations) (name : Option String) (e : Endpoint) : Outcome Store :=
  s.set d name (some e.text) none

/-- Sets the name of a type, which must derive from a base if one is given. -/
def setType (s : Store) (d : Deprecations) (name : Option String) (t : KnownType) (base : Option KnownType) :
    Outcome Store := do
  match base with
  | some base =>
    if !t.derivesFrom base then throw (.notDerivedArgument (name.getD "") t.name base.name)
  | none => pure ()
  s.set d name (some t.qualifiedName) none

end Store
end ConfigLayers
