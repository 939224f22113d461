import ConfigLayers.Error

/-! The names of the documents that a store loads by itself, in order and each once. -/
namespace ConfigLayers

structure DefaultResources where
  initial : List String
  names : List String
  deriving DecidableEq

namespace DefaultResources

def append (names : List String) (name : String) : List String :=
  if names.contains name then names else names ++ [name]

def ofList (initial : List String) : DefaultResources :=
  ⟨initial, initial.foldl append []⟩

/-- The names of a fresh registry. -/
def standard : DefaultResources :=
  ofList ["core-default.xml", "core-site.xml"]

def add (r : DefaultResources) (name : String) : DefaultResources :=
  { r with names := append r.names name }

def reset (r : DefaultResources) : DefaultResources :=
  ofList r.initial

def get (r : DefaultResources) (name : String) : Except Error String :=
  if r.names.contains name then .ok name
  else .error (.unregistered name "default_resources" (some r.names))

def unregister (r : DefaultResources) (name : String) : Except Error (String × DefaultResources) :=
  if r.names.contains name then .ok (name, { r with names := r.names.filter (· != name) })
  else .error (.unregistered name "default_resources" none)

end DefaultResources
end ConfigLayers
