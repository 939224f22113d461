import ConfigLayers.Proofs.Store.Operations
import ConfigLayers.Proofs.Table
import ConfigLayers.Proofs.Traced

/-! Every way of setting a value is the plain one under a condition, so one entry tells what a setter does to
a name. The setter for names without a value reads a name as it is given and writes it trimmed. -/
namespace ConfigLayers
namespace Store

namespace Setter

/-- The name that a value is set under, as it is given. -/
def given : Setter → Option String
  | text name _ _ | ifUnset name _ | int name _ | real name _ | boolean name _ | booleanIfUnset name _
  | duration name _ _ | items name _ | pattern name _ | endpoint name _ | type name _ _ => name

def value : Setter → Option String
  | text _ value _ | ifUnset _ value => value
  | int _ n => some (Integer.text n)
  | real _ x => some (Binary64.text x)
  | boolean _ b | booleanIfUnset _ b => some (boolText b)
  | duration _ amount unit => some (Duration.format amount unit)
  | items _ texts => some (Text.join "," texts)
  | pattern _ p => some p.source
  | endpoint _ e => some e.text
  | type _ t _ => some t.qualifiedName

def source : Setter → Option String
  | text _ _ source => source
  | _ => none

/-- Whether a read of a name, as it is given, finds no value. -/
def findsNone (s : Store) (c : Context) (given : String) : Bool :=
  match (s.get c given none).value with
  | .ok none => true
  | _ => false

/-- Whether the condition of a setter holds: a name that must be unset is, and a type has its base. -/
def isDue (s : Store) (c : Context) : Setter → Bool
  | ifUnset (some given) _ | booleanIfUnset (some given) _ => findsNone s c given
  | type _ t (some base) => t.derivesFrom base
  | _ => true

/-- The entry that a setter writes under a name, if it writes one. -/
def entry? (s : Store) (c : Context) (w : Setter) (name : String) : Option Entry :=
  w.given.bind fun given =>
    let targets := c.deprecations.targets (Text.trim given)
    if w.isDue s c && (w.value.isSome || s.allowsNull) && targets.contains name && !s.isFinal name then
      some ⟨w.value, setSources (Text.trim given) targets w.source⟩
    else none

end Setter

variable {s : Store} {c : Context}

theorem after_setIfUnset (s : Store) (c : Context) (given : String) (value : Option String) :
    s.after (s.setIfUnset c (some given) value) =
      if Setter.findsNone s c given then s.after (s.set c.deprecations (some given) value none) else s := by
  rw [setIfUnset, Setter.findsNone]
  cases hg : (s.get c given none).value with
  | error e => rw [after, Traced.value_bind_error _ hg]; rfl
  | ok found =>
    rw [after, Traced.value_bind_ok _ hg]
    cases found <;> rfl

theorem after_write (s : Store) (c : Context) (w : Setter) :
    s.after (w.run s c) =
      if w.isDue s c then s.after (s.set c.deprecations w.given w.value w.source) else s := by
  cases w with
  | ifUnset name value =>
    cases name with
    | none => rfl
    | some given => exact after_setIfUnset s c given value
  | booleanIfUnset name b =>
    cases name with
    | none => rfl
    | some given => exact after_setIfUnset s c given _
  | type name t base =>
    cases base with
    | none => rfl
    | some base =>
      cases hd : t.derivesFrom base with
      | true =>
        simp only [Setter.run, setType, Setter.isDue, hd]
        rfl
      | false =>
        simp only [Setter.run, setType, Setter.isDue, hd]
        rfl
  | _ => rfl

theorem after_set (s : Store) (d : Deprecations) (given : String) (value source : Option String) :
    s.after (s.set d (some given) value source) =
      if value.isSome || s.allowsNull then
        s.assignAll ⟨value, setSources (Text.trim given) (d.targets (Text.trim given)) source⟩
          (d.targets (Text.trim given))
      else s := by
  rw [after, value_set]
  cases value <;> cases s.allowsNull <;> rfl

theorem get?_after_write (s : Store) (c : Context) (w : Setter) (name : String) :
    (s.after (w.run s c)).entries.get? name = (w.entry? s c name).or (s.entries.get? name) ∧
      (s.after (w.run s c)).overlay.get? name = (w.entry? s c name).or (s.overlay.get? name) := by
  rw [after_write, Setter.entry?]
  cases hd : w.isDue s c with
  | false => cases w.given <;> simp
  | true =>
    cases hg : w.given with
    | none => exact ⟨rfl, rfl⟩
    | some given =>
      simp only [if_true, after_set]
      cases hv : (w.value.isSome || s.allowsNull) with
      | false => simp
      | true =>
        simp only [if_true]
        obtain ⟨he, ho⟩ := get?_assignAll
          ⟨w.value, setSources (Text.trim given) (c.deprecations.targets (Text.trim given)) w.source⟩ s
          (c.deprecations.targets (Text.trim given)) name
        rw [he, ho]
        by_cases hm : name ∈ c.deprecations.targets (Text.trim given) <;> cases s.isFinal name <;> simp [hm]

theorem assignAll_eq_self_iff {e : Entry} {names : List String} :
    s.assignAll e names = s ↔
      ∀ name ∈ names, s.isFinal name = false → s.entries.get? name = some e ∧ s.overlay.get? name = some e := by
  constructor
  · intro h name hm hf
    obtain ⟨he, ho⟩ := get?_assignAll e s names name
    rw [h, if_pos ⟨hm, hf⟩] at he ho
    exact ⟨he, ho⟩
  · intro h
    induction names with
    | nil => rfl
    | cons name names ih =>
      have hs : assign e s name = s := by
        unfold assign
        split
        · rfl
        · rename_i hf
          obtain ⟨he, ho⟩ := h name List.mem_cons_self (Bool.eq_false_iff.mpr hf)
          rw [Table.insert_of_get? he, Table.insert_of_get? ho]
      rw [assignAll, List.foldl_cons, hs]
      exact ih fun other hm => h other (List.mem_cons_of_mem _ hm)

/-- Where a trimmed name has a value, setting it unless it has one leaves the store as it is, provided that the name
is given trimmed. Of any other name the value is kept exactly if a read of the name as it is given finds one too or
fails, or if the new entry is there already. Which names are final never changes. -/
theorem setIfUnset_keeps_value (s : Store) (c : Context) (given v x : String) :
    let name := Text.trim given
    let targets := c.deprecations.targets name
    let e : Entry := ⟨some v, setSources name targets none⟩
    let t := s.after (s.setIfUnset c (some given) (some v))
    (s.get c name none).value = .ok (some x) →
    (name = given → (s.setIfUnset c (some given) (some v)).value = .ok s) ∧
      (t = s ↔ Setter.findsNone s c given = false ∨
        ∀ target ∈ targets, s.isFinal target = false →
          s.entries.get? target = some e ∧ s.overlay.get? target = some e) ∧
      t.finals = s.finals := by
  intro name targets e t hx
  have ht : t = if Setter.findsNone s c given then s.assignAll e targets else s := after_setIfUnset s c given (some v)
  refine ⟨fun hn => ?_, ?_, ?_⟩
  · rw [hn] at hx
    exact Traced.value_bind_ok _ hx
  · rw [ht]
    cases Setter.findsNone s c given with
    | false => simp
    | true => simpa using assignAll_eq_self_iff
  · rw [ht]
    split
    · rw [assignAll_eq]
    · rfl

/-- A deprecated name is given trimmed, and one of its replacements has a value. -/
theorem setIfUnset_keeps_value_redirected :
    let c : Context := ⟨⟨Table.insert ∅ "old" ⟨["a", "b"], none⟩, ∅, []⟩, ⟨⟨Path.parse "/", []⟩, ∅, ∅, 0⟩⟩
    let s := (empty (.fixed ∅)).run [(c, .write (.text (some "a") (some "1") none))]
    (s.get c (Text.trim "old") none).value = .ok (some "1") ∧
      (s.setIfUnset c (some "old") (some "2")).value = .ok s := by
  intro c s
  have hx : (s.get c (Text.trim "old") none).value = .ok (some "1") := Traced.eq_ok_of_toOption (by decide +kernel)
  exact ⟨hx, (setIfUnset_keeps_value s c "old" "2" "1" hx).1 (by decide)⟩

/-- A read of a name with blanks around it finds no value, so the value of the name without them is replaced. -/
theorem setIfUnset_replaces_value :
    let c : Context := ⟨⟨∅, ∅, []⟩, ⟨⟨Path.parse "/", []⟩, ∅, ∅, 0⟩⟩
    let s := (empty (.fixed ∅)).run [(c, .write (.text (some "a") (some "1") none))]
    (s.get c (Text.trim " a ") none).value = .ok (some "1") ∧
      s.entries.get? "a" = some ⟨some "1", ["programmatically"]⟩ ∧
      ∃ t, (s.setIfUnset c (some " a ") (some "2")).value = .ok t ∧
        t.entries.get? "a" = some ⟨some "2", ["programmatically"]⟩ :=
  ⟨Traced.eq_ok_of_toOption (by decide +kernel), by decide +kernel, _, rfl, by decide +kernel⟩

end Store
end ConfigLayers
