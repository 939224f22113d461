import ConfigLayers.Redaction
import ConfigLayers.Store.Load
import ConfigLayers.Substitution

/-! Reading a store: values with the references in them replaced. -/
namespace ConfigLayers
namespace Store

/-- What a reference stands for: a value of the store, else a variable of the environment. -/
def lookup (s : Store) (c : Context) (name : String) : Option String :=
  (s.valueAmong (c.deprecations.targets name)).or (c.world.environment.get? name)

def expandWith (find : String → Option String) (value name : Option String) : Outcome (Option String) :=
  (Substitution.substitute value find name Substitution.standardLimit).rephrase .resolved id

/-- A value with references replaced, those of sensitive names by the mask if there is a redactor. -/
def expand (s : Store) (c : Context) (redactor : Option Redactor) (value name : Option String) :
    Outcome (Option String) :=
  match redactor with
  | none => expandWith (s.lookup c) value name
  | some r => expandWith (fun ref => r.redact ref (s.lookup c ref)) value name

/-- The value of a name as it is stored. -/
def raw (s : Store) (c : Context) (name : String) : Outcome (Option String) := do
  return s.valueAmong (← c.deprecations.resolve name)

/-- The value of a name, or the default, with references replaced. -/
def get (s : Store) (c : Context) (name : String) (default : Option String) : Outcome (Option String) := do
  let value ← s.raw c name
  s.expand c none (value.or default) (some name)

def getTrimmed (s : Store) (c : Context) (name : String) (default : Option String) :
    Outcome (Option String) := do
  match ← s.get c name none with
  | some value => return some (Text.trim value)
  | none => return default

def contains (s : Store) (c : Context) (name : String) : Outcome Bool := do
  return s.holdsAmong (← c.deprecations.resolve name)

/-- Whether a name is stored without a value. -/
def isValueless (s : Store) (c : Context) (name : String) : Outcome Bool := do
  let targets ← c.deprecations.resolve name
  return s.holdsAmong targets && (s.valueAmong targets).isNone

def sources (s : Store) (c : Context) (name : String) : Outcome (Option (List String)) := do
  return s.sourcesAmong (← c.deprecations.resolve name)

/-- The values of some names, each with references replaced. -/
def expandPairs (s : Store) (c : Context) : List (String × String) → Outcome (List (String × String))
  | [] => return []
  | (name, value) :: rest => do
    let value ← s.expand c none (some value) (some name)
    let others ← expandPairs s c rest
    return (value.map fun value => (name, value)).toList ++ others

/-- The values of names that start with a text, by what follows it. -/
def withStart (s : Store) (c : Context) (start : String) : Outcome (List (String × String)) := do
  let chosen := s.pairs.filter fun (name, _) => start.toList.isPrefixOf name.toList
  let found ← s.expandPairs c chosen
  return found.map fun (name, value) => (String.ofList (name.toList.drop start.toList.length), value)

/-- The values of names in which an expression is found. -/
def withMatch (s : Store) (c : Context) (expression : String) : Outcome (List (String × String)) :=
  match Pattern.compile? expression with
  | none => throw .malformedPattern
  | some p => s.expandPairs c (s.pairs.filter fun (name, _) => p.isFoundIn name)

end Store
end ConfigLayers
