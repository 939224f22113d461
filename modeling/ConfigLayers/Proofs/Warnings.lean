import Mathlib.Data.List.Induction
import ConfigLayers.Proofs.Deprecation

/-! Which uses of deprecated names give a warning. The registry remembers the names that it has warned about. Over a
whole history this comes to one warning for each name, at its first use while it is deprecated. -/
namespace ConfigLayers
namespace Deprecations

/-- What happens to a registry, one by one: a name is deprecated, or something that an operation reports is observed. -/
inductive Step where
  | add (name : Option String) (replacements : List (Option String)) (message : Option String)
  | event (e : Event)
  deriving DecidableEq

namespace Step

/-- The registry after a step, and the notices that the step gives. -/
def run (d : Deprecations) : Step → Deprecations × List Notice
  | add name replacements message => (Change.run d (.add name replacements message), [])
  | event e => d.observe [e]

/-- The deprecation that a step registers for a name. -/
def registers? (name : String) : Step → Option Deprecation
  | add (some written) given message =>
    if written ≠ "" ∧ kept given ≠ [] ∧ Text.trim written = name then some ⟨kept given, message⟩ else none
  | _ => none

/-- Whether a step resolves a name or is about deprecating it. -/
def concerns (name : String) : Step → Bool
  | add (some written) _ _ => Text.trim written == name
  | event (.resolved other) => other == name
  | _ => false

theorem registers?_of_concerns {name : String} {step : Step} (h : step.concerns name = false) :
    step.registers? name = none := by
  cases step with
  | event e => rfl
  | add given replacements message =>
    cases given with
    | none => rfl
    | some written => exact if_neg fun hc => by simp [concerns, hc.2.2] at h

end Step

/-- The registry after some steps, and the notices that they give. -/
def perform (d : Deprecations) : List Step → Deprecations × List Notice
  | [] => (d, [])
  | step :: steps =>
    let (d, first) := step.run d
    let (d, rest) := d.perform steps
    (d, first ++ rest)

theorem perform_append (d : Deprecations) (xs ys : List Step) :
    d.perform (xs ++ ys) =
      (((d.perform xs).1.perform ys).1, (d.perform xs).2 ++ ((d.perform xs).1.perform ys).2) := by
  induction xs generalizing d with
  | nil => rfl
  | cons x xs ih => simp [perform, ih]

theorem perform_concat (d : Deprecations) (steps : List Step) (step : Step) :
    d.perform (steps ++ [step]) =
      ((step.run (d.perform steps).1).1, (d.perform steps).2 ++ (step.run (d.perform steps).1).2) := by
  simp [perform_append, perform]

theorem observe_eq_perform (d : Deprecations) (events : List Event) :
    d.observe events = d.perform (events.map .event) := by
  induction events generalizing d with
  | nil => rfl
  | cons e events ih => cases e <;> simp [perform, Step.run, observe, ih]

/-! What one step does. -/

theorem add_isOk_iff {d : Deprecations} {name : Option String} {given : List (Option String)}
    {message : Option String} :
    (∃ e, d.add name given message = .ok e) ↔ ∃ written, name = some written ∧ written ≠ "" ∧ kept given ≠ [] := by
  unfold add
  extract_lets kept'
  have hk : kept' = kept given := rfl
  rw [← hk]
  clear_value kept'
  split
  · simp
  · simp
  · simp
  · rename_i written hw hkept
    simpa using ⟨hw, hkept⟩

theorem get?_entries_step (d : Deprecations) (step : Step) (name : String) :
    (step.run d).1.entries.get? name = (step.registers? name).or (d.entries.get? name) := by
  cases step with
  | event e =>
    cases e with
    | noticed notice => rfl
    | resolved other =>
      change (d.use other).1.entries.get? name = _
      rw [(entries_use d other).1]
      rfl
  | add given replacements message =>
    simp only [Step.run, Change.run]
    cases h : d.add given replacements message with
    | ok e =>
      obtain ⟨written, rfl, hw, hk⟩ := add_isOk_iff.mp ⟨e, h⟩
      obtain ⟨_, hs, _, rfl⟩ := add_eq_ok h
      cases hs
      rw [Table.get?_insert]
      by_cases hn : Text.trim written = name
      · simp [Step.registers?, hw, hk, hn]
      · simp [Step.registers?, hn, Ne.symm hn]
    | error e =>
      cases given with
      | none => rfl
      | some written =>
        have hn : ¬ (written ≠ "" ∧ kept replacements ≠ []) := by
          rintro ⟨hw, hk⟩
          have he : ∃ e, d.add (some written) replacements message = .ok e :=
            add_isOk_iff.mpr ⟨written, rfl, hw, hk⟩
          simp [h] at he
        have hr : Step.registers? name (.add (some written) replacements message) = none :=
          if_neg fun hc => hn ⟨hc.1, hc.2.1⟩
        rw [hr, Option.none_or]

theorem mem_warned_use (d : Deprecations) (other name : String) :
    name ∈ (d.use other).1.warned ↔ name ∈ d.warned ∨ other = name ∧ (d.entries.get? name).isSome := by
  unfold use
  cases h : d.entries.get? other with
  | none =>
    constructor
    · exact .inl
    · rintro (hn | ⟨rfl, hn⟩)
      · exact hn
      · simp [h] at hn
  | some x =>
    have hs : other = name → (d.entries.get? name).isSome := by
      rintro rfl
      simp [h]
    dsimp only
    split
    · rename_i hc
      constructor
      · exact .inl
      · rintro (hn | ⟨rfl, -⟩)
        · exact hn
        · simpa using hc
    · rw [List.mem_cons, eq_comm, or_comm, and_iff_left_of_imp hs]

theorem mem_warned_step (d : Deprecations) (step : Step) (name : String) :
    name ∈ (step.run d).1.warned ↔
      name ∈ d.warned ∨ step = .event (.resolved name) ∧ (d.entries.get? name).isSome := by
  cases step with
  | event e =>
    cases e with
    | noticed notice => simp [Step.run, observe]
    | resolved other => simpa [Step.run, observe] using mem_warned_use d other name
  | add given replacements message =>
    have hw : (Change.run d (.add given replacements message)).warned = d.warned := by
      simp only [Change.run]
      split
      · rename_i e h
        obtain ⟨_, _, _, rfl⟩ := add_eq_ok h
        rfl
      · rfl
    simp [Step.run, hw]

theorem notices_use (d : Deprecations) (name : String) :
    (Step.run d (.event (.resolved name))).2 =
      if name ∈ d.warned then []
      else (d.entries.get? name).toList.map fun x => ⟨.warning, .registry, x.warning name⟩ := by
  simp only [Step.run, observe, use, List.append_nil]
  cases d.entries.get? name with
  | none => simp
  | some x =>
    by_cases h : name ∈ d.warned
    · simp [h]
    · simp [h]

/-! A history, step by step. -/

/-- The deprecation that the last of some steps to register a name gave it. -/
def registered (before : List Step) (name : String) : Option Deprecation :=
  (before.filterMap (Step.registers? name)).getLast?

theorem registered_concat (before : List Step) (step : Step) (name : String) :
    registered (before ++ [step]) name = (step.registers? name).or (registered before name) := by
  unfold registered
  cases h : step.registers? name with
  | none => simp [h]
  | some x => simp [h]

theorem get?_entries_perform (steps : List Step) (name : String) :
    (empty.perform steps).1.entries.get? name = registered steps name := by
  induction steps using List.reverseRecOn with
  | nil => rfl
  | append_singleton steps step ih => rw [perform_concat, get?_entries_step, ih, registered_concat]

/-- A step of a history, with the steps before it. -/
structure Moment where
  before : List Step
  step : Step

def momentsFrom (before : List Step) : List Step → List Moment
  | [] => []
  | step :: steps => ⟨before, step⟩ :: momentsFrom (before ++ [step]) steps

/-- All moments of a history. -/
def moments (steps : List Step) : List Moment :=
  momentsFrom [] steps

theorem momentsFrom_append (before xs ys : List Step) :
    momentsFrom before (xs ++ ys) = momentsFrom before xs ++ momentsFrom (before ++ xs) ys := by
  induction xs generalizing before with
  | nil => simp [momentsFrom]
  | cons x xs ih => simp [momentsFrom, ih]

theorem moments_concat (steps : List Step) (step : Step) :
    moments (steps ++ [step]) = moments steps ++ [⟨steps, step⟩] := by
  simp [moments, momentsFrom_append, momentsFrom]

theorem mem_momentsFrom {before steps : List Step} {m : Moment} :
    m ∈ momentsFrom before steps ↔ ∃ passed after, m.before = before ++ passed ∧ steps = passed ++ m.step :: after := by
  induction steps generalizing before with
  | nil => simp [momentsFrom]
  | cons step steps ih =>
    rw [momentsFrom, List.mem_cons, ih]
    constructor
    · rintro (rfl | ⟨passed, after, hb, hs⟩)
      · exact ⟨[], steps, by simp, rfl⟩
      · exact ⟨step :: passed, after, by simp [hb], by simp [hs]⟩
    · rintro ⟨passed, after, hb, hs⟩
      cases passed with
      | nil =>
        obtain ⟨rfl, rfl⟩ := List.cons.inj hs
        exact .inl (by cases m; simp_all)
      | cons s passed =>
        obtain ⟨rfl, rfl⟩ := List.cons.inj hs
        exact .inr ⟨passed, after, by simp [hb], rfl⟩

theorem mem_moments {steps : List Step} {m : Moment} :
    m ∈ moments steps ↔ ∃ after, steps = m.before ++ m.step :: after := by
  simp [moments, mem_momentsFrom]

/-- What a step gives in a registry that was empty at first. -/
def Moment.notices (m : Moment) : List Notice :=
  (m.step.run (empty.perform m.before).1).2

theorem perform_notices (steps : List Step) :
    (empty.perform steps).2 = (moments steps).flatMap Moment.notices := by
  induction steps using List.reverseRecOn with
  | nil => rfl
  | append_singleton steps step ih => simp [perform_concat, moments_concat, ih, Moment.notices]

/-- The moments at which a name is resolved while it is deprecated, with its deprecation. -/
def uses (name : String) (steps : List Step) : List (Moment × Deprecation) :=
  (moments steps).filterMap fun m =>
    if m.step = .event (.resolved name) then (registered m.before name).map (m, ·) else none

/-- The notices that resolving a name gives, with their moments. -/
def warnings (name : String) (steps : List Step) : List (Moment × Notice) :=
  (moments steps).flatMap fun m => if m.step = .event (.resolved name) then m.notices.map (m, ·) else []

section Concat

variable (name : String) (steps : List Step) {step : Step}

theorem uses_concat_resolved :
    uses name (steps ++ [.event (.resolved name)]) =
      uses name steps ++ (registered steps name).toList.map (⟨steps, .event (.resolved name)⟩, ·) := by
  cases h : registered steps name <;> simp [uses, moments_concat, h]

theorem uses_concat_other (h : step ≠ .event (.resolved name)) : uses name (steps ++ [step]) = uses name steps := by
  simp [uses, moments_concat, h]

end Concat

theorem mem_warned_perform (steps : List Step) (name : String) :
    name ∈ (empty.perform steps).1.warned ↔ uses name steps ≠ [] := by
  induction steps using List.reverseRecOn with
  | nil => simp [perform, empty, uses, moments, momentsFrom]
  | append_singleton steps step ih =>
    rw [perform_concat, mem_warned_step, ih, get?_entries_perform]
    by_cases hs : step = .event (.resolved name)
    · subst hs
      rw [uses_concat_resolved]
      cases h : registered steps name <;> simp
    · rw [uses_concat_other name steps hs]
      simp [hs]

/-- Only the first use of a name gives its warning, in the words of the deprecation that is registered then. -/
theorem notices_resolved (name : String) (steps : List Step) :
    Moment.notices ⟨steps, .event (.resolved name)⟩ =
      if (uses name steps).isEmpty then
        (registered steps name).toList.map fun x => ⟨.warning, .registry, x.warning name⟩
      else [] := by
  have hn : Moment.notices ⟨steps, .event (.resolved name)⟩ =
      (Step.run (empty.perform steps).1 (.event (.resolved name))).2 := rfl
  have hw := mem_warned_perform steps name
  rw [hn, notices_use, get?_entries_perform]
  by_cases hu : uses name steps = []
  · rw [if_neg fun h => hw.mp h hu, hu]
    rfl
  · rw [if_pos (hw.mpr hu), if_neg (by simpa using hu)]

theorem warnings_eq_first_use (name : String) (steps : List Step) :
    warnings name steps =
      ((uses name steps).take 1).map fun (m, x) => (m, ⟨.warning, .registry, x.warning name⟩) := by
  induction steps using List.reverseRecOn with
  | nil => rfl
  | append_singleton steps step ih =>
    by_cases hs : step = .event (.resolved name)
    · subst hs
      have hw : warnings name (steps ++ [.event (.resolved name)]) = warnings name steps ++
          (Moment.notices ⟨steps, .event (.resolved name)⟩).map (⟨steps, .event (.resolved name)⟩, ·) := by
        simp [warnings, moments_concat]
      rw [hw, ih, notices_resolved, uses_concat_resolved]
      cases uses name steps with
      | nil => cases registered steps name <;> simp
      | cons u us => simp
    · have hw : warnings name (steps ++ [step]) = warnings name steps := by
        simp [warnings, moments_concat, hs]
      rw [hw, ih, uses_concat_other name steps hs]

theorem uses_ne_nil_iff {name : String} {steps : List Step} :
    uses name steps ≠ [] ↔
      ∃ before after, steps = before ++ .event (.resolved name) :: after ∧ (registered before name).isSome := by
  constructor
  · intro h
    obtain ⟨⟨m, x⟩, hu⟩ := List.exists_mem_of_ne_nil _ h
    obtain ⟨m, hm, hx⟩ := List.mem_filterMap.mp hu
    split at hx
    · rename_i hs
      obtain ⟨y, hr, -⟩ := Option.map_eq_some_iff.mp hx
      obtain ⟨after, ha⟩ := mem_moments.mp hm
      exact ⟨m.before, after, hs ▸ ha, by simp [hr]⟩
    · cases hx
  · rintro ⟨before, after, hs, hr⟩
    obtain ⟨x, hx⟩ := Option.isSome_iff_exists.mp hr
    refine List.ne_nil_of_mem (a := (⟨before, .event (.resolved name)⟩, x)) (List.mem_filterMap.mpr ?_)
    exact ⟨⟨before, .event (.resolved name)⟩, mem_moments.mpr ⟨after, hs⟩, by simp [hx]⟩

theorem registered_filter (name : String) (steps : List Step) :
    registered (steps.filter (Step.concerns name)) name = registered steps name := by
  induction steps using List.reverseRecOn with
  | nil => rfl
  | append_singleton steps step ih =>
    rw [List.filter_append, registered_concat, ← ih]
    cases h : step.concerns name with
    | true => rw [List.filter_cons_of_pos h, List.filter_nil, registered_concat]
    | false => rw [List.filter_cons_of_neg (by simp [h]), List.filter_nil, List.append_nil,
        Step.registers?_of_concerns h, Option.none_or]

theorem uses_filter (name : String) (steps : List Step) :
    (uses name (steps.filter (Step.concerns name))).map Prod.snd = (uses name steps).map Prod.snd := by
  induction steps using List.reverseRecOn with
  | nil => rfl
  | append_singleton steps step ih =>
    rw [List.filter_append]
    cases h : step.concerns name with
    | true =>
      rw [List.filter_cons_of_pos h, List.filter_nil]
      by_cases hs : step = .event (.resolved name)
      · subst hs
        rw [uses_concat_resolved, uses_concat_resolved, registered_filter, List.map_append, List.map_append, ih]
        simp
      · rw [uses_concat_other name _ hs, uses_concat_other name _ hs, ih]
    | false =>
      have hs : step ≠ .event (.resolved name) := by
        rintro rfl
        simp [Step.concerns] at h
      rw [List.filter_cons_of_neg (by simp [h]), List.filter_nil, List.append_nil, uses_concat_other name _ hs, ih]

theorem length_warnings (name : String) (steps : List Step) :
    (warnings name steps).length = min 1 (uses name steps).length := by
  rw [warnings_eq_first_use, List.length_map, List.length_take]

theorem warnings_filter (name : String) (steps : List Step) :
    (warnings name (steps.filter (Step.concerns name))).map Prod.snd = (warnings name steps).map Prod.snd := by
  have hw (steps : List Step) : (warnings name steps).map Prod.snd =
      (((uses name steps).map Prod.snd).take 1).map fun x => ⟨.warning, .registry, x.warning name⟩ := by
    rw [warnings_eq_first_use]
    simp [List.map_take, Function.comp_def]
  rw [hw, hw, uses_filter]

end Deprecations
end ConfigLayers
