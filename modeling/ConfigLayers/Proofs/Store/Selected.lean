import ConfigLayers.Proofs.Store.Expansion
import ConfigLayers.Store.Dump
import Mathlib.Data.List.Forall2

/-! What is taken from a store to be written: its entries in order, each with its references replaced, and the
values of sensitive names masked. -/
namespace ConfigLayers
namespace Store

variable {s : Store} {c : Context} {r : Redactor}

/-- The value that a list of entries has for a name. -/
def valueOf? (ps : List Declared) (name : String) : Option String :=
  (ps.find? (·.name = name)).bind Declared.value

theorem valueOf?_snapshot (s : Store) (name : String) :
    valueOf? s.snapshot name = (s.entries.get? name).bind Entry.value := by
  have h : ∀ entries : List (String × Entry),
      valueOf? (entries.map fun entry => ⟨entry.1, entry.2.value, s.isFinal entry.1, entry.2.sources⟩) name =
        (Table.find name entries).bind Entry.value := by
    intro entries
    induction entries with
    | nil => rfl
    | cons entry rest ih =>
      rw [valueOf?, List.map_cons, List.find?_cons, Table.find]
      by_cases hn : entry.1 = name
      · simp [hn]
      · simpa [valueOf?, hn] using ih
  exact h s.entries.entries

theorem valueAmong_eq (s : Store) (names : List String) :
    s.valueAmong names = (names.filterMap (valueOf? s.snapshot)).getLast? := by
  have h : valueOf? s.snapshot = fun name => (s.entries.get? name).bind Entry.value :=
    funext (valueOf?_snapshot s)
  rw [valueAmong, h]

theorem map_name_snapshot (s : Store) : s.snapshot.map Declared.name = s.entries.keys := by
  rw [snapshot, List.map_map]
  rfl

theorem nodup_snapshot (s : Store) : (s.snapshot.map Declared.name).Nodup := by
  rw [map_name_snapshot]
  exact s.entries.nodup

theorem valueOf?_of_mem {ps : List Declared} (hn : (ps.map Declared.name).Nodup) {p : Declared} (hp : p ∈ ps) :
    valueOf? ps p.name = p.value := by
  induction ps with
  | nil => cases hp
  | cons q ps ih =>
    obtain ⟨hq, hn⟩ := List.nodup_cons.mp hn
    rcases List.mem_cons.mp hp with rfl | hp
    · simp [valueOf?]
    · have hne : q.name ≠ p.name := fun e => hq (e ▸ List.mem_map_of_mem hp)
      simpa [valueOf?, hne] using ih hn hp

theorem isSome_valueAmong_congr {t : Store}
    (h : ∀ name, (valueOf? t.snapshot name).isSome = (valueOf? s.snapshot name).isSome) (names : List String) :
    (t.valueAmong names).isSome = (s.valueAmong names).isSome := by
  rw [valueAmong_eq, valueAmong_eq]
  induction names with
  | nil => rfl
  | cons name names ih =>
    have hn := h name
    cases hs : valueOf? s.snapshot name <;> cases ht : valueOf? t.snapshot name <;>
      simp_all [List.getLast?_cons]

/-- The redactor of the expressions that a store names. -/
def redactor (s : Store) (c : Context) : Outcome Redactor := do
  Redactor.ofExpressions (← s.get c sensitiveName none)

theorem chosen_all (s : Store) (c : Context) : (s.chosen c none).value = .ok s.snapshot := rfl

theorem filter_snapshot_eq_nil_iff {names : List String} :
    (s.snapshot.filter fun p => names.contains p.name) = [] ↔ s.holdsAmong names = false := by
  simp only [List.filter_eq_nil_iff, holdsAmong, List.any_eq_false, List.contains_eq_mem, decide_eq_true_eq,
    Table.contains_iff, ← map_name_snapshot, List.mem_map]
  constructor
  · rintro h name hm ⟨p, hp, rfl⟩
    exact h p hp hm
  · intro h p hp hm
    exact h p.name hm ⟨p, hp, rfl⟩

/-- For a name that is not empty, the entries that stand for it are chosen, if there are any. -/
theorem value_chosen_some {name : String} (hn : name ≠ "") :
    (s.chosen c (some name)).value =
      if s.holdsAmong (c.deprecations.targets name) then
        .ok (s.snapshot.filter fun p => (c.deprecations.targets name).contains p.name)
      else .error (.propertyNotFound name) := by
  unfold chosen
  split
  · rename_i he
    cases he
  · rename_i he
    cases he
    exact absurd rfl hn
  · rename_i other _ he
    cases he
    rw [Traced.value_bind_ok _ (Deprecations.value_resolve _ _)]
    split
    · rename_i hf
      rw [filter_snapshot_eq_nil_iff.mp hf]
      rfl
    · rename_i hf
      rw [if_pos (Bool.ne_false_iff.mp fun hh => hf (filter_snapshot_eq_nil_iff.mpr hh))]
      rfl

theorem chosen_some {name : String} {ps : List Declared} (hn : name ≠ "")
    (h : (s.chosen c (some name)).value = .ok ps) :
    ps = s.snapshot.filter fun p => (c.deprecations.targets name).contains p.name := by
  rw [value_chosen_some hn] at h
  split at h
  · cases h
    rfl
  · cases h

theorem selected_ok {name : Option String} {ps : List Declared} (h : (s.selected c name).value = .ok ps) :
    ∃ found r, (s.chosen c name).value = .ok found ∧ (s.redactor c).value = .ok r ∧
      (s.maskedAll c r found).value = .ok ps := by
  obtain ⟨found, hf, h⟩ := Traced.value_bind_eq_ok_iff.mp h
  obtain ⟨expressions, he, h⟩ := Traced.value_bind_eq_ok_iff.mp h
  obtain ⟨r, hr, h⟩ := Traced.value_bind_eq_ok_iff.mp h
  exact ⟨found, r, hf, Traced.value_bind_eq_ok_iff.mpr ⟨expressions, he, hr⟩, h⟩

theorem masked_ok {p q : Declared} (h : (s.masked c r p).value = .ok q) :
    ∃ x, (s.expand c (some r) p.value (some p.name)).value = .ok x ∧ q = { p with value := r.redact p.name x } := by
  obtain ⟨x, hx, h⟩ := Traced.value_bind_eq_ok_iff.mp h
  exact ⟨x, hx, (Except.ok.inj h).symm⟩

theorem isSome_masked {p q : Declared} (h : (s.masked c r p).value = .ok q) : q.value.isSome = p.value.isSome := by
  obtain ⟨x, hx, rfl⟩ := masked_ok h
  rw [← isSome_expand hx, isSome_redact]

def MaskedAs (s : Store) (c : Context) (r : Redactor) : List Declared → List Declared → Prop :=
  List.Forall₂ fun p q => (s.masked c r p).value = .ok q

theorem maskedAll_ok {found ps : List Declared} (h : (s.maskedAll c r found).value = .ok ps) :
    s.MaskedAs c r found ps := by
  induction found generalizing ps with
  | nil =>
    cases h
    exact .nil
  | cons p found ih =>
    obtain ⟨q, hq, h⟩ := Traced.value_bind_eq_ok_iff.mp h
    obtain ⟨qs, hqs, h⟩ := Traced.value_bind_eq_ok_iff.mp h
    cases h
    exact .cons hq (ih hqs)

theorem selected_all_ok {ps : List Declared} (h : (s.selected c none).value = .ok ps) :
    ∃ r, (s.redactor c).value = .ok r ∧ s.MaskedAs c r s.snapshot ps := by
  obtain ⟨found, r, hf, hr, hm⟩ := selected_ok h
  rw [chosen_all] at hf
  cases hf
  exact ⟨r, hr, maskedAll_ok hm⟩

theorem writtenXml_eq_ok_iff {name : Option String} {text : String} :
    (s.writtenXml c name).value = .ok text ↔
      ∃ ps, (s.selected c name).value = .ok ps ∧ ps.all Declared.isLegal = true ∧
        (Declared.document ps).document = text := by
  rw [writtenXml, Traced.value_bind_eq_ok_iff]
  refine exists_congr fun ps => and_congr_right fun _ => ?_
  cases ps.all Declared.isLegal with
  | true => simp
  | false => simp only [Bool.false_eq_true, if_false, false_and, iff_false]; exact fun h => nomatch h

end Store
end ConfigLayers
