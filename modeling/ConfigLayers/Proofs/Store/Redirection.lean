import ConfigLayers.Proofs.Deprecation
import ConfigLayers.Proofs.Store.Operations
import Mathlib.Data.List.Basic

/-! Writes and reads through deprecated names. Both are redirected once: a replacement that is deprecated itself is
written under its own name, but not read under it. -/
namespace ConfigLayers

theorem Deprecations.targets_congr {d e : Deprecations} (h : e.entries = d.entries) (name : String) :
    e.targets name = d.targets name := by
  rw [targets, targets, h]

namespace Store

variable {s : Store} {names others : List String} {v : String}

/-- The last value of some names if others have been given a value. -/
def valueWith (s : Store) (others : List String) (v : String) (names : List String) : Option String :=
  (names.filterMap fun name => if name ∈ others then some v else (s.entries.get? name).bind Entry.value).getLast?

theorem valueWith_of_subset (h : ∀ name ∈ names, name ∈ others) (hn : names ≠ []) :
    s.valueWith others v names = some v := by
  have hm : names.filterMap (fun name => if name ∈ others then some v else (s.entries.get? name).bind Entry.value) =
      names.map fun _ => v := by
    rw [← List.filterMap_eq_map]
    exact List.filterMap_congr fun name hm => if_pos (h name hm)
  rw [valueWith, hm, List.getLast?_map, List.getLast?_eq_some_getLast hn]
  rfl

theorem valueAmong_assignAll (hf : ∀ name ∈ others, s.isFinal name = false) (sources : List String)
    (names : List String) : (s.assignAll ⟨some v, sources⟩ others).valueAmong names = s.valueWith others v names := by
  have he : ∀ name, ((s.assignAll ⟨some v, sources⟩ others).entries.get? name).bind Entry.value =
      if name ∈ others then some v else (s.entries.get? name).bind Entry.value := by
    intro name
    rw [(get?_assignAll ⟨some v, sources⟩ s others name).1]
    by_cases hm : name ∈ others
    · simp [hm, hf name hm]
    · simp [hm]
  rw [valueAmong, valueWith]
  exact congrArg _ (List.filterMap_congr fun name _ => he name)

/-- A value that is set under a deprecated name is read under that name, and under every replacement of it that is
not deprecated itself. Whatever name is read, the value is the last one among the names it is redirected to, and of
these the replacements of the name that was set have the value and the others what they had before. -/
theorem deprecated_write_read (changes : List Deprecations.Change) (s : Store) (old v : String)
    (source : Option String) :
    let d := Deprecations.empty.after changes
    d.isDeprecated old = true → Text.trim old = old → (∀ r ∈ d.replacements old, s.isFinal r = false) →
    ∃ t, (s.set d (some old) (some v) source).value = .ok t ∧
      ∀ c : Context, c.deprecations.entries = d.entries →
        (t.raw c old).value = .ok (some v) ∧
        (∀ r ∈ d.replacements old, d.isDeprecated r = false → (t.raw c r).value = .ok (some v)) ∧
        ∀ name, (t.raw c name).value = .ok (s.valueWith (d.replacements old) v (d.targets name)) := by
  intro d hd ht hf
  have hsound : d.IsSound := Deprecations.isSound_after changes
  have hold : d.targets old = d.replacements old := by
    rw [Deprecations.targets_eq, hd]
    rfl
  have hset : (s.set d (some old) (some v) source).value =
      .ok (s.assignAll ⟨some v, setSources old (d.targets old) source⟩ (d.targets old)) := by
    rw [value_set, ht]
    rfl
  refine ⟨_, hset, fun c hc => ?_⟩
  have hread : ∀ name,
      ((s.assignAll ⟨some v, setSources old (d.targets old) source⟩ (d.targets old)).raw c name).value =
        .ok (s.valueWith (d.replacements old) v (d.targets name)) := by
    intro name
    change Except.ok (valueAmong _ (c.deprecations.targets name)) = _
    rw [Deprecations.targets_congr hc, hold, valueAmong_assignAll hf]
  refine ⟨?_, fun r hr hn => ?_, hread⟩
  · rw [hread, hold, valueWith_of_subset (fun _ h => h) (hsound.replaced old hd)]
  · have htr : d.targets r = [r] := Deprecations.targets_of_not_isDeprecated hn
    rw [hread, htr, valueWith_of_subset (by simpa using hr) (by simp)]

/-- One of two replacements is deprecated in favour of the other. Both are written, and the value is read through
all three names, but not through the name of an earlier replacement. -/
theorem deprecated_write_read_shared :
    let d := Deprecations.empty.after [.add (some "old") [some "first"] none,
      .add (some " old ") [some "mid", none, some " new "] (some "gone"), .add (some "mid") [some "new"] none, .use "old"]
    let s := (empty (.fixed ∅)).markFinal "first"
    let c : Context := ⟨(d.use "old").1, ⟨⟨Path.parse "/", []⟩, ∅, ∅, 0⟩⟩
    d.isDeprecated "old" = true ∧ Text.trim "old" = "old" ∧ (∀ r ∈ d.replacements "old", s.isFinal r = false) ∧
      ∃ t, (s.set d (some "old") (some "1") none).value = .ok t ∧ (t.raw c "old").value = .ok (some "1") ∧
        (t.raw c "new").value = .ok (some "1") ∧ (t.raw c "mid").value = .ok (some "1") ∧
        (t.raw c "first").value = .ok none := by
  intro d s c
  have hd : d.isDeprecated "old" = true := by decide
  have ht : Text.trim "old" = "old" := by decide
  have hf : ∀ r ∈ d.replacements "old", s.isFinal r = false := by decide
  obtain ⟨t, hset, hread⟩ := deprecated_write_read _ s "old" "1" none hd ht hf
  obtain ⟨hold, hnew, hall⟩ := hread c (Deprecations.entries_use d "old").1
  exact ⟨hd, ht, hf, t, hset, hold, hnew "new" (by decide) (by decide), hall "mid", hall "first"⟩

/-- A value that is set through a name of a deprecated replacement is not read under that replacement, as this
read is redirected to a name that has no value. -/
theorem deprecated_replacement_hides_value :
    let d := Deprecations.empty.after [.add (some "old") [some "mid"] none, .add (some "mid") [some "new"] none]
    let s := empty (.fixed ∅)
    d.isDeprecated "old" = true ∧ Text.trim "old" = "old" ∧ (∀ r ∈ d.replacements "old", s.isFinal r = false) ∧
      "mid" ∈ d.replacements "old" ∧
      ∃ t, (s.set d (some "old") (some "1") none).value = .ok t ∧
        (t.raw ⟨d, ⟨⟨Path.parse "/", []⟩, ∅, ∅, 0⟩⟩ "mid").value = .ok none :=
  ⟨by decide, by decide, by decide, by decide, _, rfl, rfl⟩

end Store
end ConfigLayers
