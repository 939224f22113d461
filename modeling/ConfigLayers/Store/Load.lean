import ConfigLayers.Document.Loader
import ConfigLayers.Store.Layer

/-! Documents of a store: adding one, and loading all of them anew. -/
namespace ConfigLayers

/-- What a store is used with: the deprecations of its names, and the world around it. -/
structure Context where
  deprecations : Deprecations
  world : World

namespace Store

def holdsResource (s : Store) (r : Resource) : Bool :=
  r.isReloadable && s.resources.any r.same

/-- What a document declares. A document that stores load by themselves may be missing. -/
def declared (s : Store) (c : Context) (r : Resource) : Outcome (Option (List Declared)) := do
  let found ← tryCatch (some <$> Loader.load ⟨s.resolver, c.world⟩ r) fun e =>
    if r.isDefault && e.kind == .resourceUnavailable then pure none else throw e
  match found with
  | none => return none
  | some ps =>
    if !s.isQuiet then
      Outcome.notify .info .store
        ("Loaded " ++ Integer.natText ps.length ++ " properties from " ++ r.sourceName)
    return some ps

/-- Adds a document and lays it over the store, under the overlay. A document that has been added is not
added again. -/
def addResource (s : Store) (c : Context) (r : Resource) : Outcome Store := do
  if s.holdsResource r then return s
  else match ← s.declared c r with
    | none => return s
    | some ps =>
      let l ← ({ s with resources := s.resources ++ [r] } : Store).layer c.deprecations (.ofResource r) ps
      return l.restored

/-- A new store, with the documents of some names if there are any. -/
def ofDefaults (resolver : Resolver) (c : Context) (names : List String) : Outcome Store :=
  names.foldlM (fun s name => s.addResource c (.ofName name true)) (empty resolver)

/-- What each of some documents declares, without those that may be missing and are. -/
def declaredAll (s : Store) (c : Context) : List Resource → Outcome (List (Resource × List Declared))
  | [] => return []
  | r :: rest => do
    let first ← s.declared c r
    let others ← declaredAll s c rest
    return (first.map fun ps => (r, ps)).toList ++ others

/-- Forgets all values and final names, but not the overlay. -/
def withoutLayers (s : Store) : Store :=
  { s with entries := ∅, finals := [] }

def layerAll (d : Deprecations) : Store → List (Resource × List Declared) → Outcome Store
  | s, [] => return s
  | s, (r, ps) :: rest => do
    let s ← s.applyDeclared d (.ofResource r) ps
    layerAll d s rest

/-- Rebuilds the store from its documents, but for streams, and its overlay. -/
def reload (s : Store) (c : Context) : Outcome Store := do
  let documents ← s.declaredAll c (s.resources.filter Resource.isReloadable)
  let rebuilt ← layerAll c.deprecations s.withoutLayers documents
  return { rebuilt with entries := rebuilt.entries.insertAll rebuilt.overlay.entries }

end Store
end ConfigLayers
