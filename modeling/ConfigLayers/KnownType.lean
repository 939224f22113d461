import ConfigLayers.Error

/-! The types that a name can stand for, and which derive from which. -/
namespace ConfigLayers

inductive KnownType where
  | object
  | dict
  | int
  | str
  | list
  | set
  | bool
  | tuple
  | float
  | exception
  | valueError
  | lookupError
  | keyError
  | orderedDict
  | counter
  | deque
  deriving DecidableEq, Repr

namespace KnownType

def all : List KnownType :=
  [object, dict, int, str, list, set, bool, tuple, float, exception, valueError, lookupError, keyError,
    orderedDict, counter, deque]

def name : KnownType → String
  | object => "object"
  | dict => "dict"
  | int => "int"
  | str => "str"
  | list => "list"
  | set => "set"
  | bool => "bool"
  | tuple => "tuple"
  | float => "float"
  | exception => "Exception"
  | valueError => "ValueError"
  | lookupError => "LookupError"
  | keyError => "KeyError"
  | orderedDict => "OrderedDict"
  | counter => "Counter"
  | deque => "deque"

def home : KnownType → String
  | orderedDict | counter | deque => "collections"
  | _ => "builtins"

def qualifiedName (t : KnownType) : String :=
  t.home ++ "." ++ t.name

/-- The type and those it derives from, the nearest first. -/
def lineage : KnownType → List KnownType
  | object => [object]
  | bool => [bool, int, object]
  | orderedDict => [orderedDict, dict, object]
  | counter => [counter, dict, object]
  | exception => [exception, object]
  | valueError => [valueError, exception, object]
  | lookupError => [lookupError, exception, object]
  | keyError => [keyError, lookupError, exception, object]
  | t => [t, object]

def derivesFrom (t base : KnownType) : Bool :=
  t.lineage.contains base

def find? (home name : String) : Option KnownType :=
  all.find? fun t => t.home == home && t.name == name

def splitLastDot (cs : List Char) : Option (List Char × List Char) :=
  if cs.contains '.' then
    let last := (cs.reverse.takeWhile (· != '.')).reverse
    some (cs.take (cs.length - last.length - 1), last)
  else none

end KnownType
end ConfigLayers
