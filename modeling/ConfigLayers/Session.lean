import ConfigLayers.Catalog.Configured
import ConfigLayers.DefaultResources
import ConfigLayers.Store.Dump
import ConfigLayers.Store.Password
import ConfigLayers.Store.Write

/-! Several stores side by side in one world. Stores may share a registry of deprecations, which remembers
the names that it has warned about. -/
namespace ConfigLayers

/-- A store with the number of its registry and the schemes of its providers. -/
structure Slot where
  store : Store
  registry : Nat
  schemes : CredentialSchemes

/-- The registry numbered zero belongs to all stores that have none of their own. -/
structure Session where
  world : World
  resolver : Resolver
  registries : List Deprecations
  defaults : DefaultResources
  slots : Table Slot

/-- What a step of a session reports and returns. -/
structure Reply (α : Type) where
  notices : List Notice
  result : Except Error α

/-- What a new store does not share with others. -/
structure Ownership where
  deprecations : Option Deprecations
  defaults : Option DefaultResources
  schemes : Option CredentialSchemes

namespace Session

variable {α : Type}

def start (world : World) (resolver : Resolver) (shared : Deprecations) (defaults : DefaultResources) : Session :=
  ⟨world, resolver, [shared], defaults, ∅⟩

def registry (s : Session) (number : Nat) : Deprecations :=
  s.registries.getD number .empty

def slot (s : Session) (name : String) : Slot :=
  (s.slots.get? name).getD ⟨.empty s.resolver, 0, .standard⟩

def observe (s : Session) (number : Nat) (x : Outcome α) : Session × Reply α :=
  let (registry, notices) := (s.registry number).observe x.trace
  ({ s with registries := s.registries.set number registry }, ⟨notices, x.value⟩)

/-- Runs an operation on a store. One that fails leaves the store as it is. -/
def run (s : Session) (name : String) (operation : Context → Slot → Outcome (Store × α)) : Session × Reply α :=
  let slot := s.slot name
  let (s, reply) := s.observe slot.registry (operation ⟨s.registry slot.registry, s.world⟩ slot)
  let store := match reply.result with
    | .ok (store, _) => store
    | .error _ => slot.store
  ({ s with slots := s.slots.insert name { slot with store } }, ⟨reply.notices, reply.result.map Prod.snd⟩)

def update (s : Session) (name : String) (operation : Store → Context → Outcome Store) : Session × Reply Unit :=
  s.run name fun c slot => do return (← operation slot.store c, ())

def query (s : Session) (name : String) (operation : Slot → Context → Outcome α) : Session × Reply α :=
  s.run name fun c slot => do return (slot.store, ← operation slot c)

/-- Makes a new store in place of that of a name, with the default documents if they are wanted. -/
def create (s : Session) (name : String) (loadsDefaults : Bool) (own : Ownership) : Session × Reply Unit :=
  let number := if own.deprecations.isSome then s.registries.length else 0
  let s := { s with registries := s.registries ++ own.deprecations.toList }
  let documents := if loadsDefaults then (own.defaults.getD s.defaults).names else []
  let (s, reply) := s.observe number (Store.ofDefaults s.resolver ⟨s.registry number, s.world⟩ documents)
  match reply.result with
  | .ok store =>
    let slot : Slot := ⟨store, number, own.schemes.getD .standard⟩
    ({ s with slots := s.slots.insert name slot }, ⟨reply.notices, .ok ()⟩)
  | .error e => (s, ⟨reply.notices, .error e⟩)

def clone (s : Session) (name source : String) : Session :=
  let slot := s.slot source
  { s with slots := (s.slots.insert source slot).insert name slot }

def addDeprecation (s : Session) (number : Nat) (name : Option String) (replacements : List (Option String))
    (message : Option String) : Session × Reply Unit :=
  match (s.registry number).add name replacements message with
  | .ok registry => ({ s with registries := s.registries.set number registry }, ⟨[], .ok ()⟩)
  | .error e => (s, ⟨[], .error e⟩)

def writeFile (s : Session) (path text : String) : Session × Except Error Unit :=
  match s.world.files.write (Path.parse path) (Utf8.encode text.toList) with
  | .ok files => ({ s with world := { s.world with files } }, .ok ())
  | .error (.file fault) => (s, .error (.file fault))
  | .error .nul => (s, .error .nulInPath)

/-- Writes what an operation gives to a file, if it gives a text and a path is wanted. -/
def save (path : Option String) (x : Session × Reply String) : Session × Reply String :=
  match path, x with
  | some path, (s, ⟨notices, .ok text⟩) =>
    let (s, result) := s.writeFile path text
    (s, ⟨notices, result.map fun _ => text⟩)
  | _, x => x

end Session
end ConfigLayers
