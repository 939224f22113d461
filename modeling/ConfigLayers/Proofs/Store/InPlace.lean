import ConfigLayers.Proofs.Store.Operations

/-! Loading documents into a store that is changed in place, one write after the other, where an error leaves all
that has been written before it. Every write comes after all that can fail, so what a failing load leaves is the
store as it was, and what a load ends in is the store that the operations on values give. -/
namespace ConfigLayers

/-- A store with a document added that a reference stands for, if it stands for one. -/
def Store.addReference (s : Store) (c : Context) (x : Except Error Resource) : Outcome Store := do
  s.addResource c (← x)

/-- Changes of a store in place. -/
abbrev InPlace := EStateM Error Store

namespace InPlace

open Store (Layering)

variable {α : Type}

def ofExcept : Except Error α → InPlace α
  | .ok a => pure a
  | .error e => throw e

/-- What a document declares, loaded with the resolver that the store has at this moment. -/
def read (c : Context) (r : Resource) : InPlace (Option (List Declared)) := do
  ofExcept ((← get).declared c r).value

/-- Writes a declaration under a name that is not final, and adds the name to those that have been written. -/
def declare (o : Origin) (p : Declared) (touched : List String) (name : String) : InPlace (List String) := do
  if (← get).isFinal name then return touched
  let isWritten := p.value.isSome || (← get).allowsNull
  if isWritten then
    modify fun s => { s with entries := s.entries.insert name ⟨p.value, o.sources p⟩ }
  if p.isFinal then
    modify fun s => s.markFinal name
  return if isWritten then touched ++ [name] else touched

def declareAll (o : Origin) (p : Declared) (touched : List String) (names : List String) : InPlace (List String) :=
  names.foldlM (declare o p) touched

def layer (d : Deprecations) (o : Origin) (touched : List String) (ps : List Declared) : InPlace (List String) :=
  ps.foldlM (fun touched p => declareAll o p touched (d.targets p.name)) touched

def putBack (name : String) : InPlace Unit :=
  modify fun s => { s with entries := Store.restore s.overlay s.entries name }

/-- Adds the document of a reference. -/
def add (c : Context) (x : Except Error Resource) : InPlace Unit := do
  let r ← ofExcept x
  if (← get).holdsResource r then return
  match ← read c r with
  | none => return
  | some ps =>
    modify fun s => { s with resources := s.resources ++ [r] }
    let touched ← layer c.deprecations (.ofResource r) [] ps
    forM touched putBack

/-- What each of some documents declares, without those that may be missing and are. -/
def readAll (c : Context) : List Resource → InPlace (List (Resource × List Declared))
  | [] => return []
  | r :: rest => do
    let first ← read c r
    let others ← readAll c rest
    return (first.map fun ps => (r, ps)).toList ++ others

def layerAll (d : Deprecations) (documents : List (Resource × List Declared)) : InPlace Unit :=
  forM documents fun x => do
    let _ ← layer d (.ofResource x.1) [] x.2

/-- Loads all documents again, and only then forgets what is stored. -/
def reload (c : Context) : InPlace Unit := do
  let documents ← readAll c ((← get).resources.filter Resource.isReloadable)
  modify Store.withoutLayers
  layerAll c.deprecations documents
  modify fun s => { s with entries := s.entries.insertAll s.overlay.entries }

/-- The result of changing a store to the one that a computation gives, and not at all if it fails. -/
def ofValue (s : Store) : Except Error Store → EStateM.Result Error Store Unit
  | .ok t => .ok () t
  | .error e => .error e s

theorem ofValue_eq_error_iff {s t : Store} {x : Except Error Store} {e : Error} :
    ofValue s x = .error e t ↔ x = .error e ∧ t = s := by
  cases x <;> simp [ofValue, eq_comm]

theorem ofValue_eq_ok_iff {s t : Store} {x : Except Error Store} : ofValue s x = .ok () t ↔ x = .ok t := by
  cases x <;> simp [ofValue]

theorem ofValue_of_toOption {s : Store} {x : Except Error Store} (h : x.toOption = none) :
    ∃ e, ofValue s x = .error e s := by
  cases x with
  | ok t => cases h
  | error e => exact ⟨e, rfl⟩

variable (s : Store) (c : Context) (d : Deprecations) (o : Origin)

theorem run_ofExcept (x : Except Error α) :
    (ofExcept x).run s = match x with
      | .ok a => .ok a s
      | .error e => .error e s := by
  cases x <;> rfl

theorem run_read (r : Resource) :
    (read c r).run s = match (s.declared c r).value with
      | .ok found => .ok found s
      | .error e => .error e s := by
  rw [read, EStateM.run_bind, EStateM.run_get]
  dsimp only
  cases (s.declared c r).value <;> rfl

theorem run_declare (p : Declared) (l : Layering) (name : String) :
    (declare o p l.touched name).run l.store = .ok (l.declare o p name).touched (l.declare o p name).store := by
  unfold declare Layering.declare
  cases hf : l.store.isFinal name with
  | true => simp [hf]
  | false =>
    cases hw : (p.value.isSome || l.store.allowsNull) <;> cases p.isFinal <;>
      simp only [EStateM.run_bind, EStateM.run_get, hf, hw, Bool.false_eq_true, if_false, if_true] <;> rfl

theorem run_declareAll (p : Declared) (l : Layering) (names : List String) :
    (declareAll o p l.touched names).run l.store =
      .ok (l.declareAll o p names).touched (l.declareAll o p names).store := by
  induction names generalizing l with
  | nil => rfl
  | cons name names ih =>
    rw [declareAll, List.foldlM_cons, EStateM.run_bind, run_declare]
    exact ih (l.declare o p name)

theorem run_layer (l : Layering) (ps : List Declared) :
    (layer d o l.touched ps).run l.store = .ok (Layering.layer d o l ps).touched (Layering.layer d o l ps).store := by
  induction ps generalizing l with
  | nil => rfl
  | cons p ps ih =>
    rw [layer, List.foldlM_cons, EStateM.run_bind, run_declareAll]
    exact ih (l.declareAll o p (d.targets p.name))

theorem run_putBackAll (names : List String) :
    (forM names putBack).run s = .ok () { s with entries := names.foldl (Store.restore s.overlay) s.entries } := by
  induction names generalizing s with
  | nil => rfl
  | cons name names ih =>
    rw [List.forM_cons, EStateM.run_bind, putBack, EStateM.run_modify]
    exact ih _

theorem run_add (x : Except Error Resource) : (add c x).run s = ofValue s (s.addReference c x).value := by
  cases x with
  | error e => rfl
  | ok r =>
    change _ = ofValue s (s.addResource c r).value
    rw [Store.addResource, add, EStateM.run_bind, run_ofExcept]
    dsimp only
    rw [EStateM.run_bind, EStateM.run_get]
    dsimp only
    cases hh : s.holdsResource r with
    | true => rfl
    | false =>
      simp only [Bool.false_eq_true, if_false]
      rw [EStateM.run_bind, run_read]
      cases hd : (s.declared c r).value with
      | error e =>
        rw [Traced.value_bind_error _ hd]
        rfl
      | ok found =>
        rw [Traced.value_bind_ok _ hd]
        cases found with
        | none => rfl
        | some ps =>
          dsimp only
          rw [EStateM.run_bind, EStateM.run_modify]
          dsimp only
          rw [EStateM.run_bind]
          let l : Layering := ⟨{ s with resources := s.resources ++ [r] }, []⟩
          rw [show (layer c.deprecations (.ofResource r) [] ps).run { s with resources := s.resources ++ [r] } = _ from
            run_layer c.deprecations (.ofResource r) l ps]
          dsimp only
          rw [run_putBackAll, Traced.value_bind_ok _ (Store.value_layer _ _ _ _)]
          rfl

theorem run_readAll (rs : List Resource) :
    (readAll c rs).run s = match (s.declaredAll c rs).value with
      | .ok documents => .ok documents s
      | .error e => .error e s := by
  induction rs with
  | nil => rfl
  | cons r rs ih =>
    rw [readAll, EStateM.run_bind, run_read, Store.declaredAll]
    cases hd : (s.declared c r).value with
    | error e => rw [Traced.value_bind_error _ hd]
    | ok found =>
      rw [Traced.value_bind_ok _ hd]
      dsimp only
      rw [EStateM.run_bind, ih]
      cases hr : (s.declaredAll c rs).value with
      | error e => rw [Traced.value_bind_error _ hr]
      | ok documents =>
        rw [Traced.value_bind_ok _ hr]
        rfl

theorem run_layerAll (documents : List (Resource × List Declared)) :
    ∃ t, (Store.layerAll d s documents).value = .ok t ∧ (layerAll d documents).run s = .ok () t := by
  induction documents generalizing s with
  | nil => exact ⟨s, rfl, rfl⟩
  | cons x documents ih =>
    obtain ⟨r, ps⟩ := x
    let l : Layering := Layering.layer d (.ofResource r) ⟨s, []⟩ ps
    have hl : (layer d (.ofResource r) [] ps).run s = .ok l.touched l.store := run_layer d (.ofResource r) ⟨s, []⟩ ps
    have hs : (s.applyDeclared d (.ofResource r) ps).value = .ok l.store := rfl
    obtain ⟨t, ht, hr⟩ := ih l.store
    refine ⟨t, ?_, ?_⟩
    · rw [Store.layerAll, Traced.value_bind_ok _ hs, ht]
    · rw [layerAll, List.forM_cons, EStateM.run_bind, EStateM.run_bind, hl]
      exact hr

theorem run_reload : (reload c).run s = ofValue s (s.reload c).value := by
  rw [reload, Store.reload, EStateM.run_bind, EStateM.run_get]
  dsimp only
  rw [EStateM.run_bind, run_readAll]
  cases hd : (s.declaredAll c (s.resources.filter Resource.isReloadable)).value with
  | error e =>
    rw [Traced.value_bind_error _ hd]
    rfl
  | ok documents =>
    rw [Traced.value_bind_ok _ hd]
    dsimp only
    obtain ⟨t, ht, hr⟩ := run_layerAll s.withoutLayers c.deprecations documents
    rw [EStateM.run_bind, EStateM.run_modify]
    dsimp only
    rw [EStateM.run_bind, hr, Traced.value_bind_ok _ ht]
    rfl

end InPlace
end ConfigLayers
