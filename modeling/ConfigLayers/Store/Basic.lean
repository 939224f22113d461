import ConfigLayers.Deprecation
import ConfigLayers.Document.Declared
import ConfigLayers.Resource

/-! Stores of properties: values with their sources, final names, and an overlay of values that were set by
a program and win over those of documents. -/
namespace ConfigLayers

/-- A value, if there is one, and what it came from. -/
structure Entry where
  value : Option String
  sources : List String
  deriving DecidableEq, Repr

structure Store where
  entries : Table Entry
  finals : List String
  overlay : Table Entry
  resources : List Resource
  /-- Whether names without a value are stored. -/
  allowsNull : Bool
  /-- Whether loads go unreported. -/
  isQuiet : Bool
  resolver : Resolver
  deriving DecidableEq

namespace Store

def empty (resolver : Resolver) : Store :=
  ⟨∅, [], ∅, [], false, true, resolver⟩

def isFinal (s : Store) (name : String) : Bool :=
  s.finals.contains name

def markFinal (s : Store) (name : String) : Store :=
  if s.isFinal name then s else { s with finals := s.finals ++ [name] }

def valueAmong (s : Store) (names : List String) : Option String :=
  (names.filterMap fun name => (s.entries.get? name).bind Entry.value).getLast?

def holdsAmong (s : Store) (names : List String) : Bool :=
  names.any s.entries.contains

def sourcesAmong (s : Store) (names : List String) : Option (List String) :=
  (names.filterMap fun name => (s.entries.get? name).map Entry.sources).getLast?

/-- All entries as they would be declared. -/
def snapshot (s : Store) : List Declared :=
  s.entries.entries.map fun (name, e) => ⟨name, e.value, s.isFinal name, e.sources⟩

def pairs (s : Store) : List (String × String) :=
  s.entries.entries.filterMap fun (name, e) => e.value.map fun value => (name, value)

def size (s : Store) : Nat :=
  s.entries.size

def text (s : Store) : String :=
  "Configuration: " ++ Text.join ", " (s.resources.map Resource.sourceName)

def shown (s : Store) : String :=
  "<PropertyStore size=" ++ Integer.natText s.size ++ " resources=" ++ Integer.natText s.resources.length ++ ">"

@[simp] theorem isFinal_markFinal (s : Store) (name other : String) :
    (s.markFinal name).isFinal other = (s.isFinal other || other == name) := by
  unfold markFinal
  split
  · rename_i h
    by_cases e : other = name
    · subst e; simp [h]
    · simp [e]
  · by_cases e : other = name <;> simp [isFinal, e]

end Store
end ConfigLayers
