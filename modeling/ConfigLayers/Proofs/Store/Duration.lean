import ConfigLayers.Proofs.Duration
import ConfigLayers.Proofs.Store.Expansion
import ConfigLayers.Proofs.Store.Operations
import ConfigLayers.Proofs.Value.Integer
import ConfigLayers.Store.Typed

/-! Durations that are written as text and read again, also through a store. -/
namespace ConfigLayers
namespace Store

open Text

variable {s : Store} {c : Context} {name : String}

theorem raw_set {d : Deprecations} (htrim : Text.trim name = name) (hfinal : s.isFinal name = false)
    (hd : d.isDeprecated name = false) (hc : c.deprecations.isDeprecated name = false) (value : String)
    (source : Option String) : ∃ t, (s.set d (some name) (some value) source).value = .ok t ∧
      (t.raw c name).value = .ok (some value) := by
  refine ⟨_, value_set s d name (some value) source, ?_⟩
  rw [htrim, Deprecations.targets_of_not_isDeprecated hd]
  refine raw_of_get? (e := ⟨some value, setSources name [name] source⟩) ?_ hc
  rw [(get?_assignAll _ s [name] name).1, if_pos ⟨List.mem_singleton_self name, hfinal⟩]

theorem getDuration_of_get {text : String} (h : (s.get c name none).value = .ok (some text))
    (default : Option (Int ⊕ String)) (w : TimeUnit) :
    (s.getDuration c name default w).value = some <$> Duration.parse (trim text) w (some name) := by
  have ht : (s.getTrimmed c name none).value = .ok (some (trim text)) := by
    rw [getTrimmed, Traced.value_bind_ok _ h]
    rfl
  rw [getDuration, Traced.value_bind_ok _ ht]
  dsimp only
  rw [Traced.value_bind, Traced.value_liftM]
  cases Duration.parse (trim text) w (some name) <;> rfl

theorem dollar_notMem_format (amount : Int) (u : TimeUnit) : '$' ∉ (Duration.format amount u).toList := by
  rw [Duration.toList_format, List.append_nil, List.mem_append]
  rintro (hm | hm)
  · rcases Integer.mem_text hm with hc | hc
    · exact absurd hc (by decide)
    · exact absurd hc (by decide)
  · cases u <;> revert hm <;> decide

/-- Durations come back from their texts. An amount of 64 bits that is written with the suffix of its unit is read as
that amount, converted to the unit that is asked for. So it is with the suffix in any letter case and with any blanks
around the text and in front of the suffix, and so it is through a store under a name in use that is not final. -/
theorem duration_round_trip {amount : Int} (hv : -2 ^ 63 ≤ amount ∧ amount ≤ 2 ^ 63 - 1) (u w : TimeUnit) :
    (∀ key, Duration.parse (Duration.format amount u) w key = .ok (w.convert amount u)) ∧
    (∀ before between suffix after : String, (∀ c ∈ before.toList, isBlank c = true) →
      (∀ c ∈ between.toList, isBlank c = true) → Text.lower suffix = u.suffix →
      (∀ c ∈ after.toList, isBlank c = true) → ∀ key,
        Duration.parse (before ++ Integer.text amount ++ between ++ suffix ++ after) w key =
          .ok (w.convert amount u)) ∧
    ∀ (s : Store) (d : Deprecations) (c : Context) (name : String), Text.trim name = name → s.isFinal name = false →
      d.isDeprecated name = false → c.deprecations.isDeprecated name = false →
        ∃ t, (s.setDuration d (some name) amount u).value = .ok t ∧ ∀ default,
          (t.getDuration c name default w).value = .ok (some (w.convert amount u)) ∧
          (t.getDuration c name default u).value = .ok (some amount) := by
  obtain ⟨hlow, hhigh⟩ := hv
  rw [← Value.bounds_long.1] at hlow
  rw [← Value.bounds_long.2] at hhigh
  have hnone : ∀ c ∈ ([] : List Char), isBlank c = true := fun _ hc => absurd hc List.not_mem_nil
  have hformat : ∀ w key, Duration.parse (Duration.format amount u) w key = .ok (w.convert amount u) := fun w key =>
    Duration.parse_append hlow hhigh (TimeUnit.isSuffix_suffix u) hnone hnone hnone
      (by simp only [Duration.toList_format, List.nil_append, List.append_nil]) key
  refine ⟨hformat w, fun before between suffix after hb hm hsuffix ha key => ?_,
    fun s d c name htrim hfinal hd hc => ?_⟩
  · have hs : u.IsSuffix suffix.toList := by
      rw [TimeUnit.IsSuffix, ← hsuffix, Text.lower, String.toList_ofList]
    refine Duration.parse_append hlow hhigh hs hb hm ha ?_ key
    simp only [String.toList_append, List.append_assoc]
  · obtain ⟨t, ht, hraw⟩ := raw_set (c := c) htrim hfinal hd hc (Duration.format amount u) none
    have hget : (t.get c name none).value = .ok (some (Duration.format amount u)) :=
      get_of_raw hraw (Substitution.isExpanded_of_notMem (dollar_notMem_format amount u))
    refine ⟨t, ht, fun default => ⟨?_, ?_⟩⟩
    · rw [getDuration_of_get hget, Duration.trim_format, hformat]
      rfl
    · rw [getDuration_of_get hget, Duration.trim_format, hformat, TimeUnit.convert_self]
      rfl

/-- The least amount in milliseconds, and minutes that are set under a name and read as hours. -/
theorem duration_round_trip_least :
    let c : Context := ⟨.empty, ⟨⟨Path.parse "/", []⟩, ∅, ∅, 0⟩⟩
    Duration.parse ("\t" ++ Integer.text (-2 ^ 63) ++ " " ++ "Ms" ++ "\n") .seconds none = .ok (-9223372036854775) ∧
      ∃ t, ((empty (.fixed ∅)).setDuration .empty (some "wait") (-90) .minutes).value = .ok t ∧
        (t.getDuration c "wait" none .hours).value = .ok (some (-1)) ∧
        (t.getDuration c "wait" none .minutes).value = .ok (some (-90)) := by
  intro c
  have hleast : -2 ^ 63 ≤ (-2 ^ 63 : Int) ∧ (-2 ^ 63 : Int) ≤ 2 ^ 63 - 1 := by decide
  have hninety : -2 ^ 63 ≤ (-90 : Int) ∧ (-90 : Int) ≤ 2 ^ 63 - 1 := by decide
  obtain ⟨-, hblanks, -⟩ := duration_round_trip hleast .milliseconds .seconds
  obtain ⟨-, -, hstore⟩ := duration_round_trip hninety .minutes .hours
  obtain ⟨t, ht, hget⟩ := hstore (empty (.fixed ∅)) .empty c "wait" (by decide) rfl rfl rfl
  have hread := hblanks "\t" " " "Ms" "\n" (List.all_eq_true.mp (by decide)) (List.all_eq_true.mp (by decide))
    (by decide +kernel) (List.all_eq_true.mp (by decide)) none
  exact ⟨hread, t, ht, hget none⟩

end Store
end ConfigLayers
