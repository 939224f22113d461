import ConfigLayers.Proofs.Warnings
import ConfigLayers.Session

/-! What is done in a session, and what it comes to for one registry of deprecations that several stores may share. -/
namespace ConfigLayers
namespace Session

open Deprecations (Step Moment moments uses warnings registered)

/-- What is done in a session. Apart from the store, it does not matter here what an operation returns. -/
inductive Action where
  | addDeprecation (number : Nat) (name : Option String) (replacements : List (Option String)) (message : Option String)
  | resolve (number : Nat) (name : String)
  | operate (store : String) (operation : Context → Slot → Outcome (Store × Unit))
  | create (store : String) (loadsDefaults : Bool) (own : Ownership)
  | clone (store source : String)

/-- The session after an action, and the notices that the action gives. -/
def Action.run (s : Session) : Action → Session × List Notice
  | addDeprecation number name replacements message =>
    let (s, reply) := s.addDeprecation number name replacements message
    (s, reply.notices)
  | resolve number name =>
    let (s, reply) := s.observe number ((s.registry number).resolve name)
    (s, reply.notices)
  | operate store operation =>
    let (s, reply) := s.run store operation
    (s, reply.notices)
  | create store loadsDefaults own =>
    let (s, reply) := s.create store loadsDefaults own
    (s, reply.notices)
  | clone store source => (s.clone store source, [])

/-- The registry that an action works with. -/
def Action.registry (s : Session) : Action → Nat
  | addDeprecation number _ _ _ => number
  | resolve number _ => number
  | operate store _ => (s.slot store).registry
  | create _ _ own => if own.deprecations.isSome then s.registries.length else 0
  | clone _ source => (s.slot source).registry

/-- What an action does to the registry that it works with. -/
def Action.steps (s : Session) : Action → List Step
  | addDeprecation _ name replacements message => [.add name replacements message]
  | resolve _ name => [.event (.resolved name)]
  | operate store operation =>
    let slot := s.slot store
    (operation ⟨s.registry slot.registry, s.world⟩ slot).trace.map .event
  | create _ loadsDefaults own =>
    let registry := own.deprecations.getD (s.registry 0)
    let documents := if loadsDefaults then (own.defaults.getD s.defaults).names else []
    (Store.ofDefaults s.resolver ⟨registry, s.world⟩ documents).trace.map .event
  | clone _ _ => []

/-- All that some actions do to a registry. -/
def history (number : Nat) : Session → List Action → List Step
  | _, [] => []
  | s, a :: actions =>
    (if a.registry s = number then a.steps s else []) ++ history number (a.run s).1 actions

/-- The notices of all actions that work with a registry. -/
def log (number : Nat) : Session → List Action → List Notice
  | _, [] => []
  | s, a :: actions =>
    (if a.registry s = number then (a.run s).2 else []) ++ log number (a.run s).1 actions

/-- Whether some steps of a registry account for what it has become and for its notices. -/
structure Performs (number : Nat) (s t : Session) (steps : List Step) (notices : List Notice) : Prop where
  bound : number < t.registries.length
  outcome : (s.registry number).perform steps = (t.registry number, notices)

section Registries

variable {s t : Session} {number : Nat}

theorem registry_set (h : number < s.registries.length) (other : Nat) (d : Deprecations) :
    ({ s with registries := s.registries.set other d } : Session).registry number =
      if other = number then d else s.registry number := by
  by_cases ho : other = number
  · subst ho
    simp [registry, h]
  · simp [registry, ho]

theorem registry_append (h : number < s.registries.length) (new : List Deprecations) :
    ({ s with registries := s.registries ++ new } : Session).registry number = s.registry number := by
  simp [registry, List.getElem?_append_left h]

/-- What is done to one registry leaves the others as they are. -/
theorem performs_of {d : Deprecations} {steps : List Step} {notices : List Notice} {other : Nat}
    (h : number < t.registries.length)
    (ht : t.registry number = if other = number then d else s.registry number)
    (hd : (s.registry other).perform steps = (d, notices)) :
    Performs number s t (if other = number then steps else []) (if other = number then notices else []) := by
  refine ⟨h, ?_⟩
  rw [ht]
  by_cases ho : other = number
  · subst ho
    simpa using hd
  · simp [ho, Deprecations.perform]

theorem performs_observe {α : Type} (h : number < s.registries.length) (other : Nat) (x : Outcome α) :
    Performs number s (s.observe other x).1 (if other = number then x.trace.map .event else [])
      (if other = number then (s.observe other x).2.notices else []) :=
  performs_of (Nat.lt_of_lt_of_eq h List.length_set.symm) (registry_set h other _)
    (Deprecations.observe_eq_perform _ _).symm

theorem performs_addDeprecation (h : number < s.registries.length) (other : Nat) (name : Option String)
    (replacements : List (Option String)) (message : Option String) :
    let after := s.addDeprecation other name replacements message
    Performs number s after.1 (if other = number then [.add name replacements message] else [])
      (if other = number then after.2.notices else []) := by
  unfold addDeprecation
  cases hd : (s.registry other).add name replacements message with
  | ok d =>
    refine performs_of (Nat.lt_of_lt_of_eq h List.length_set.symm) (registry_set h other d) ?_
    simp [Deprecations.perform, Step.run, Deprecations.Change.run, hd]
  | error e =>
    refine performs_of (d := s.registry other) h ?_ ?_
    · change s.registry number = _
      split
      · rename_i ho
        rw [ho]
      · rfl
    · simp [Deprecations.perform, Step.run, Deprecations.Change.run, hd]

theorem registry_own (s : Session) (own : Option Deprecations) :
    ({ s with registries := s.registries ++ own.toList } : Session).registry
      (if own.isSome then s.registries.length else 0) = own.getD (s.registry 0) := by
  cases own with
  | none => simp [registry]
  | some d => simp [registry]

theorem create_observe (s : Session) (name : String) (loadsDefaults : Bool) (own : Ownership) :
    let wide := { s with registries := s.registries ++ own.deprecations.toList }
    let documents := if loadsDefaults then (own.defaults.getD s.defaults).names else []
    let seen := wide.observe (if own.deprecations.isSome then s.registries.length else 0)
      (Store.ofDefaults s.resolver ⟨own.deprecations.getD (s.registry 0), s.world⟩ documents)
    (s.create name loadsDefaults own).1.registries = seen.1.registries ∧
      (s.create name loadsDefaults own).2.notices = seen.2.notices := by
  unfold create
  dsimp only
  rw [← registry_own]
  split
  · exact ⟨rfl, rfl⟩
  · exact ⟨rfl, rfl⟩

theorem Performs.of_eq {s' t' : Session} {steps : List Step} {notices : List Notice}
    (h : Performs number s t steps notices) (hs : s.registry number = s'.registry number)
    (ht : t'.registries = t.registries) : Performs number s' t' steps notices :=
  ⟨ht ▸ h.bound, by rw [← hs, h.outcome, registry, registry, ht]⟩

theorem Action.performs_run (h : number < s.registries.length) (a : Action) :
    Performs number s (a.run s).1 (if a.registry s = number then a.steps s else [])
      (if a.registry s = number then (a.run s).2 else []) := by
  cases a with
  | addDeprecation other name replacements message => exact performs_addDeprecation h other name replacements message
  | resolve other name => exact performs_observe h other ((s.registry other).resolve name)
  | operate store operation =>
    let slot := s.slot store
    exact (performs_observe h slot.registry (operation ⟨s.registry slot.registry, s.world⟩ slot)).of_eq rfl rfl
  | create store loadsDefaults own =>
    obtain ⟨hr, hn⟩ := s.create_observe store loadsDefaults own
    have hw : number < (s.registries ++ own.deprecations.toList).length :=
      Nat.lt_of_lt_of_le h (List.length_append ▸ Nat.le_add_right _ _)
    have hp := (performs_observe hw _ _).of_eq (registry_append h _) hr
    rw [← hn] at hp
    exact hp
  | clone store source =>
    refine ⟨h, ?_⟩
    have hs : Action.steps s (.clone store source) = [] := rfl
    have hn : (Action.run s (.clone store source)).2 = [] := rfl
    rw [hs, hn, ite_self, ite_self]
    rfl

theorem log_eq_perform (h : number < s.registries.length) (actions : List Action) :
    log number s actions = ((s.registry number).perform (history number s actions)).2 := by
  induction actions generalizing s with
  | nil => rfl
  | cons a actions ih =>
    have hp := a.performs_run h
    rw [log, history, Deprecations.perform_append, hp.outcome, ih hp.bound]

/-- A registry warns once about each deprecated name, whatever is done with the stores that share it: when the name is
first resolved while it is deprecated, in the words of its deprecation at that time. What is done with other names
makes no difference. -/
theorem each_name_warned_once (h : number < s.registries.length) (hs : s.registry number = .empty)
    (actions : List Action) (name : String) :
    let steps := history number s actions
    log number s actions = (moments steps).flatMap Moment.notices ∧
      warnings name steps =
        ((uses name steps).take 1).map (fun (m, x) => (m, ⟨.warning, .registry, x.warning name⟩)) ∧
      (warnings name steps).length ≤ 1 ∧
      ((warnings name steps).length = 1 ↔
        ∃ before after, steps = before ++ .event (.resolved name) :: after ∧ (registered before name).isSome) ∧
      (warnings name (steps.filter (Step.concerns name))).map Prod.snd = (warnings name steps).map Prod.snd := by
  intro steps
  have hl := Deprecations.length_warnings name steps
  refine ⟨?_, Deprecations.warnings_eq_first_use name steps, by omega, ?_, Deprecations.warnings_filter name steps⟩
  · rw [log_eq_perform h, hs, Deprecations.perform_notices]
  · rw [← Deprecations.uses_ne_nil_iff, ← List.length_pos_iff]
    omega

/-- A name that is resolved, then deprecated, set in a store, given another replacement, and resolved once more. -/
theorem each_name_warned_once_moved :
    let s := start ⟨⟨Path.parse "/", []⟩, ∅, ∅, 0⟩ (.fixed ∅) .empty (.ofList [])
    let actions : List Action := [.resolve 0 "old", .addDeprecation 0 (some "old") [some "new"] (some "moved"),
      .operate "store" fun c slot => do return (← slot.store.set c.deprecations (some "old") (some "1") none, ()),
      .addDeprecation 0 (some "old") [some "newer"] none, .resolve 0 "old"]
    0 < s.registries.length ∧ s.registry 0 = .empty ∧ log 0 s actions = [⟨.warning, .registry, "moved"⟩] ∧
      (warnings "old" (history 0 s actions)).map Prod.snd = [⟨.warning, .registry, "moved"⟩] := by
  intro s actions
  have h : 0 < s.registries.length := by decide
  have hw := each_name_warned_once h rfl actions "old"
  refine ⟨h, rfl, ?_, ?_⟩
  · decide +kernel
  · rw [hw.2.1]
    decide +kernel

end Registries

end Session
end ConfigLayers
