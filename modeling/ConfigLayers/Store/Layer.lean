import ConfigLayers.Store.Basic

/-! Laying declarations over a store: later ones win, but for names that have been declared final. -/
namespace ConfigLayers

/-- Where declarations come from: the name of the source, and its locator if it has one. -/
structure Origin where
  label : String
  locator : Option String
  deriving DecidableEq, Repr

namespace Origin

def ofResource (r : Resource) : Origin :=
  ⟨r.sourceName, r.locator⟩

/-- The sources of a value: those it declares with the locator behind them, or the label alone. -/
def sources (o : Origin) (p : Declared) : List String :=
  if p.sources.isEmpty then [o.label]
  else p.sources ++ match o.locator with
    | some "" | none => []
    | some locator => [locator]

end Origin

namespace Store

/-- A store that declarations are laid over, and the names that have been written. -/
structure Layering where
  store : Store
  touched : List String
  deriving DecidableEq

/-- Writes a declaration under a name, unless the name is final. -/
def Layering.declare (o : Origin) (p : Declared) (l : Layering) (name : String) : Layering :=
  if l.store.isFinal name then l
  else
    let isWritten := p.value.isSome || l.store.allowsNull
    let entries :=
      if isWritten then l.store.entries.insert name ⟨p.value, o.sources p⟩ else l.store.entries
    let store := { l.store with entries }
    ⟨if p.isFinal then store.markFinal name else store, if isWritten then l.touched ++ [name] else l.touched⟩

def Layering.declareAll (o : Origin) (p : Declared) (l : Layering) (names : List String) : Layering :=
  names.foldl (Layering.declare o p) l

/-- Lays declarations over a store in order. -/
def Layering.layer (d : Deprecations) (o : Origin) (l : Layering) (ps : List Declared) : Layering :=
  ps.foldl (fun l p => l.declareAll o p (d.targets p.name)) l

/-- A warning where a declaration would change the value of a final name. -/
def overrideNotice? (o : Origin) (p : Declared) (s : Store) (name : String) : Option Notice :=
  match s.isFinal name, p.value, (s.entries.get? name).bind Entry.value with
  | true, some new, some old =>
    if new == old then none
    else some ⟨.warning, .store, o.label ++ ":an attempt to override final parameter: " ++ name ++ ";  Ignoring."⟩
  | _, _, _ => none

def declareEvents (o : Origin) (p : Declared) : Layering → List String → List Event
  | _, [] => []
  | l, name :: names =>
    ((overrideNotice? o p l.store name).map Event.noticed).toList ++ declareEvents o p (l.declare o p name) names

def layerEvents (d : Deprecations) (o : Origin) : Layering → List Declared → List Event
  | _, [] => []
  | l, p :: ps =>
    .resolved p.name :: declareEvents o p l (d.targets p.name)
      ++ layerEvents d o (l.declareAll o p (d.targets p.name)) ps

def layer (s : Store) (d : Deprecations) (o : Origin) (ps : List Declared) : Outcome Layering :=
  ⟨.ok (Layering.layer d o ⟨s, []⟩ ps), layerEvents d o ⟨s, []⟩ ps⟩

/-- Lays declarations over a store, the values of the overlay included. -/
def applyDeclared (s : Store) (d : Deprecations) (o : Origin) (ps : List Declared) : Outcome Store := do
  return (← s.layer d o ps).store

/-- Puts the values of the overlay back over the names that have been written. -/
def Layering.restored (l : Layering) : Store :=
  let entries := l.touched.foldl (fun t name => match l.store.overlay.get? name with
    | some e => t.insert name e
    | none => t) l.store.entries
  { l.store with entries }

@[simp] theorem value_layer (s : Store) (d : Deprecations) (o : Origin) (ps : List Declared) :
    (s.layer d o ps).value = .ok (Layering.layer d o ⟨s, []⟩ ps) := rfl

end Store
end ConfigLayers
