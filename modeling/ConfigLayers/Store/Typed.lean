import ConfigLayers.Duration
import ConfigLayers.Endpoint
import ConfigLayers.Range
import ConfigLayers.Store.Read

/-! Typed readings of a store. A name without a value gives the default. -/
namespace ConfigLayers

/-- A type whose values have names. -/
structure Enumeration where
  name : String
  members : List String
  deriving DecidableEq, Repr

/-- A value of an enumeration. -/
structure Member where
  enumeration : Enumeration
  name : String
  deriving DecidableEq, Repr

namespace Store

variable {α : Type}

def parsed (s : Store) (c : Context) (name : String) (default : Option α)
    (parse : String → Option String → Except Error α) : Outcome (Option α) := do
  match ← s.getTrimmed c name none with
  | none => return default
  | some text => return some (← parse text (some name))

def getInt (s : Store) (c : Context) (name : String) (default : Option Int) : Outcome (Option Int) :=
  s.parsed c name default Value.int

def getLong (s : Store) (c : Context) (name : String) (default : Option Int) : Outcome (Option Int) :=
  s.parsed c name default Value.long

def getByteCount (s : Store) (c : Context) (name : String) (default : Option Int) : Outcome (Option Int) :=
  s.parsed c name default Value.byteCount

def getReal (s : Store) (c : Context) (name : String) (default : Option Float) : Outcome (Option Float) :=
  s.parsed c name default Value.real

/-- True or false; any other value gives the default. -/
def getBoolean (s : Store) (c : Context) (name : String) (default : Option Bool) : Outcome (Option Bool) := do
  match ← s.getTrimmed c name none with
  | none => return default
  | some text => return (Value.boolean? text).or default

/-- A member of an enumeration, that of the default unless another is given. -/
def getMember (s : Store) (c : Context) (name : String) (default : Option Member)
    (enumeration : Option Enumeration) : Outcome (Option Member) :=
  match enumeration.or (default.map Member.enumeration) with
  | none => throw (.noEnumeration name)
  | some e => s.parsed c name default fun text key =>
    if e.members.contains text then .ok ⟨e, text⟩ else .error (.invalidValue key text e.name)

/-- A duration in a unit. A default may be a text, which is read like a value. -/
def getDuration (s : Store) (c : Context) (name : String) (default : Option (Int ⊕ String)) (unit : TimeUnit) :
    Outcome (Option Int) := do
  match ← s.getTrimmed c name none, default with
  | some text, _ | none, some (.inr text) => return some (← Duration.parse text unit (some name))
  | none, some (.inl amount) => return some amount
  | none, none => return none

def getRanges (s : Store) (c : Context) (name : String) (default : Option String) : Outcome Ranges := do
  let text ← s.get c name default
  Ranges.parse (text.getD "") (some name)

def getEndpoint (s : Store) (c : Context) (name : String) (default : Option String) (port : Option Int) :
    Outcome Endpoint := do
  match ← s.getTrimmed c name default with
  | none => throw (.noAddress name)
  | some address => Endpoint.parse address port (some name)

/-- A pattern; an empty or malformed value gives the default, the latter with a warning. -/
def getPattern (s : Store) (c : Context) (name : String) (default : Option Pattern) :
    Outcome (Option Pattern) := do
  match ← s.get c name none with
  | none | some "" => return default
  | some source => match Pattern.compile? source with
    | some p => return some p
    | none =>
      Outcome.notify .warning .store
        ("Regular expression '" ++ source ++ "' for property '" ++ name ++ "' not valid. Using default:")
      return default

/-- The items between commas. An empty value gives the defaults, if there are any. -/
def getItems (s : Store) (c : Context) (name : String) (defaults : List String) :
    Outcome (Option (List String)) := do
  match ← s.get c name none with
  | none | some "" => return if defaults.isEmpty then none else some defaults
  | some value => return some (Value.items value)

def getItemList (s : Store) (c : Context) (name : String) : Outcome (List String) := do
  return ((← s.get c name none).map Value.items).getD []

def getTrimmedItems (s : Store) (c : Context) (name : String) (defaults : List String) :
    Outcome (List String) := do
  return ((← s.get c name none).map Value.trimmedItems).getD defaults

def typeOrNone (s : Store) (typeName : String) : Except Error (Option KnownType) :=
  match s.resolver.resolveType typeName with
  | .ok t => .ok (some t)
  | .error e => if e.kind == .typeResolution then .ok none else .error e

/-- The type that a value names, which must derive from a base if one is given. -/
def getType (s : Store) (c : Context) (name : String) (default base : Option KnownType) :
    Outcome (Option KnownType) := do
  let typeName ← s.getTrimmed c name none
  let found ← match typeName with
    | none => pure default
    | some typeName => some <$> Traced.ofExcept (s.resolver.resolveType typeName)
  match found, base with
  | some t, some base =>
    if t.derivesFrom base then return found else throw (.notDerived name t.name base.name typeName)
  | _, _ => return found

def getTypes (s : Store) (c : Context) (name : String) (defaults : List KnownType) :
    Outcome (List KnownType) := do
  match ← s.getTrimmedItems c name [] with
  | [] => return defaults
  | names => (names.mapM s.resolver.resolveType : Except Error (List KnownType))

end Store
end ConfigLayers
