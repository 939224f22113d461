import ConfigLayers.Proofs.Deprecation
import ConfigLayers.Proofs.Store.Operations
import ConfigLayers.Proofs.Store.Selected

/-! The record of a single property. It is not found exactly if no entry stands for its name; else the record is
that of the first entry in the order of the store, where a read takes the last value in the order of the registry. -/
namespace ConfigLayers
namespace Store

variable {s : Store} {c : Context} {r : Redactor} {name : String}

theorem failsAs_compileAll {p : Error → Prop} (expressions : List String) :
    FailsAs p (Redactor.compileAll expressions).value := by
  induction expressions with
  | nil => exact failsAs_ok _
  | cons expression rest ih =>
    unfold Redactor.compileAll
    split
    · rw [Traced.value_bind]
      exact ih.bind fun _ _ => failsAs_ok _
    · exact ih

theorem failsAs_ofExpressions {p : Error → Prop} (expressions : Option String) :
    FailsAs p (Redactor.ofExpressions expressions).value := by
  rw [Redactor.ofExpressions, Traced.value_bind]
  exact (failsAs_compileAll _).bind fun _ _ => failsAs_ok _

theorem failsAs_maskedAll (s : Store) (c : Context) (r : Redactor) (found : List Declared) :
    FailsAs (·.kind = .substitution) (s.maskedAll c r found).value := by
  induction found with
  | nil => exact failsAs_ok _
  | cons p found ih =>
    rw [maskedAll, Traced.value_bind, masked, Traced.value_bind]
    refine ((failsAs_expand s c (some r) _ _).bind fun _ _ => failsAs_ok _).bind fun first _ => ?_
    rw [Traced.value_bind]
    exact ih.bind fun _ _ => failsAs_ok _

theorem selected_eq_error_iff (hn : name ≠ "") {e : Error} (he : e.kind = .propertyNotFound) :
    (s.selected c (some name)).value = .error e ↔
      e = .propertyNotFound name ∧ (s.contains c name).value = .ok false := by
  have hc : (s.contains c name).value = .ok (s.holdsAmong (c.deprecations.targets name)) := rfl
  have hv := value_chosen_some (s := s) (c := c) hn
  rw [hc, Except.ok.injEq]
  cases hh : s.holdsAmong (c.deprecations.targets name) with
  | false =>
    rw [hh] at hv
    rw [selected, Traced.value_bind_error _ hv, Except.error.injEq]
    simp [eq_comm]
  | true =>
    rw [hh, if_pos rfl] at hv
    have hf : FailsAs (·.kind = .substitution) (s.selected c (some name)).value := by
      rw [selected, Traced.value_bind_ok _ hv, Traced.value_bind]
      refine (failsAs_get s c _ _).bind fun expressions _ => ?_
      rw [Traced.value_bind]
      exact (failsAs_ofExpressions expressions).bind fun r _ => failsAs_maskedAll s c r _
    simp only [Bool.true_eq_false, and_false, iff_false]
    intro h
    have hk : e.kind = .substitution := hf e h
    rw [he] at hk
    cases hk

theorem value_writtenRecords {format : String} {f : DumpFormat} (hf : DumpFormat.ofText format = .ok f)
    (name : Option String) :
    (s.writtenRecords c name format).value =
      (s.selected c name).value.map fun ps => f.written (Declared.record name ps) := by
  rw [writtenRecords, Traced.value_bind, Traced.value_liftM, hf]
  change ((s.selected c name) >>= _).value = _
  rw [Traced.value_bind]
  cases (s.selected c name).value <;> rfl

theorem record_cons (hn : name ≠ "") (p : Declared) (ps : List Declared) :
    Declared.record (some name) (p :: ps) = [("property", p.toJson)] := by
  unfold Declared.record
  split
  · rename_i he
    cases he
  · rename_i he
    exact absurd (Option.some.inj he) hn
  · rename_i q qs _ _ he
    cases he
    rfl
  · rename_i he
    cases he

/-- The record of a single property is that of the first entry for its name, with its value masked. -/
theorem exists_first_of_selected (hn : name ≠ "") {ps : List Declared}
    (h : (s.selected c (some name)).value = .ok ps) :
    ∃ p r value, s.snapshot.find? (fun p => (c.deprecations.targets name).contains p.name) = some p ∧
      (s.redactor c).value = .ok r ∧ (s.expand c (some r) p.value (some p.name)).value = .ok value ∧
      Declared.record (some name) ps =
        [("property", ({ p with value := r.redact p.name value } : Declared).toJson)] := by
  obtain ⟨found, r, hc, hr, hm⟩ := selected_ok h
  rw [value_chosen_some hn] at hc
  split at hc
  · rename_i hh
    cases hc
    have hne : (s.snapshot.filter fun p => (c.deprecations.targets name).contains p.name) ≠ [] := by
      rw [Ne, filter_snapshot_eq_nil_iff, hh]
      simp
    obtain ⟨p, rest, hp⟩ := List.exists_cons_of_ne_nil hne
    have hfirst : s.snapshot.find? (fun p => (c.deprecations.targets name).contains p.name) = some p := by
      rw [← List.head?_filter, hp]
      rfl
    rw [hp] at hm
    obtain ⟨q, qs, hq, -, rfl⟩ := List.forall₂_cons_left_iff.mp (maskedAll_ok hm)
    obtain ⟨value, hv, rfl⟩ := masked_ok hq
    exact ⟨p, r, value, hfirst, hr, hv, record_cons hn _ qs⟩
  · cases hc

theorem valueAmong_of_not_isDeprecated (hd : c.deprecations.isDeprecated name = false) {p : Declared}
    (hp : s.snapshot.find? (fun p => (c.deprecations.targets name).contains p.name) = some p) :
    s.valueAmong (c.deprecations.targets name) = p.value := by
  have ht : c.deprecations.targets name = [name] := Deprecations.targets_of_not_isDeprecated hd
  have hn : p.name = name := by simpa [ht] using List.find?_some hp
  have hv : valueOf? s.snapshot name = p.value := by
    rw [← hn]
    exact valueOf?_of_mem (nodup_snapshot s) (List.mem_of_find?_eq_some hp)
  rw [ht, valueAmong_eq, ← hv]
  cases h : valueOf? s.snapshot name <;> simp [h]

/-- A single property is not found exactly if its name is not stored. Else it is recorded as the first entry of the
store that stands for its name. If no sensitive name is written or looked up then the value in the record is that of
the entry with its references replaced, which is what a read of the name gives if it reads that entry, or another one
with the same value. A name that is not deprecated has no other. -/
theorem record_agrees_with_read (s : Store) (c : Context) {name format : String} {f : DumpFormat} (hn : name ≠ "")
    (hf : DumpFormat.ofText format = .ok f) :
    let targets := c.deprecations.targets name
    (∀ e : Error, e.kind = .propertyNotFound →
      ((s.writtenRecords c (some name) format).value = .error e ↔
        e = .propertyNotFound name ∧ (s.contains c name).value = .ok false)) ∧
      ∀ text, (s.writtenRecords c (some name) format).value = .ok text →
        ∃ p value, s.snapshot.find? (fun p => targets.contains p.name) = some p ∧
          text = f.written [("property", ({ p with value } : Declared).toJson)] ∧
          (c.deprecations.isDeprecated name = false → s.valueAmong targets = p.value) ∧
          ∀ r, (s.redactor c).value = .ok r → r.isSensitive p.name = false →
            (∀ ref, .resolved ref ∈ (s.expand c none p.value (some name)).trace → r.isSensitive ref = false) →
            (s.expand c none p.value (some name)).value = .ok value ∧
              (s.valueAmong targets = p.value → (s.get c name none).value = .ok value) := by
  intro targets
  refine ⟨fun e he => ?_, fun text ht => ?_⟩
  · rw [value_writtenRecords hf, ← selected_eq_error_iff hn he]
    cases (s.selected c (some name)).value <;> simp [Except.map]
  · rw [value_writtenRecords hf] at ht
    cases hs : (s.selected c (some name)).value with
    | error e =>
      rw [hs] at ht
      cases ht
    | ok ps =>
      rw [hs] at ht
      cases ht
      obtain ⟨p, r, x, hp, hr, hx, hrec⟩ := exists_first_of_selected hn hs
      refine ⟨p, r.redact p.name x, hp, congrArg f.written hrec, fun hd => valueAmong_of_not_isDeprecated hd hp, ?_⟩
      intro r' hr' hname href
      obtain rfl : r' = r := Except.ok.inj (hr'.symm.trans hr)
      have hv : (s.expand c (some r') p.value (some name)).value = .ok x := value_expandWith_rename hx (some name)
      rw [expand_redacted href] at hv
      rw [redact_of_not_isSensitive hname]
      refine ⟨hv, fun hraw => ?_⟩
      have hget : (s.raw c name).value = .ok p.value := congrArg Except.ok hraw
      rw [get, Traced.value_bind_ok _ hget, Option.or_none]
      exact hv

/-- A name is written through two replacements of which the first is final, so that its value has to be that of the
second, with the reference in it replaced; and another name is stored nowhere. -/
theorem record_agrees_with_read_redirected :
    let c : Context := ⟨⟨Table.insert ∅ "old" ⟨["a", "b"], none⟩, ∅, []⟩,
      ⟨⟨Path.parse "/", []⟩, Table.insert ∅ "HOST" "here", ∅, 0⟩⟩
    let s := (empty (.fixed ∅)).run [(c, .apply (.named "x.xml" false) [⟨"a", none, true, []⟩]),
      (c, .write (.text (some "old") (some "at $\x7bHOST\x7d") none))]
    (s.writtenRecords c (some "gone") "JSON").value = .error (.propertyNotFound "gone") ∧
      ∃ value, (s.get c "old" none).value = .ok value ∧
        (s.writtenRecords c (some "old") "JSON").value = .ok (DumpFormat.json.written [("property",
          (⟨"b", value, false, ["programmatically", "because old is deprecated"]⟩ : Declared).toJson)]) := by
  intro c s
  have hf : DumpFormat.ofText "JSON" = .ok .json := Traced.eq_ok_of_toOption (by decide +kernel)
  refine ⟨((record_agrees_with_read s c (by decide) hf).1 _ rfl).mpr ⟨rfl, rfl⟩, ?_⟩
  obtain ⟨text, ht⟩ : ∃ text, (s.writtenRecords c (some "old") "JSON").value.toOption = some text :=
    Option.isSome_iff_exists.mp (by decide +kernel)
  have ht := Traced.eq_ok_of_toOption ht
  obtain ⟨p, value, hp, htext, -, hread⟩ := (record_agrees_with_read s c (by decide) hf).2 text ht
  obtain rfl : p = ⟨"b", some "at $\x7bHOST\x7d", false, ["programmatically", "because old is deprecated"]⟩ :=
    Option.some.inj (hp.symm.trans (by decide +kernel))
  let r : Redactor := (Redactor.ofExpressions none).value.toOption.getD ⟨[]⟩
  have hr : (s.redactor c).value = .ok r := Traced.eq_ok_of_toOption (by decide +kernel)
  have htrace : (s.expand c none (some "at $\x7bHOST\x7d") (some "old")).trace = [.resolved "HOST"] := by
    decide +kernel
  have hhost : r.isSensitive "HOST" = false := by decide +kernel
  have hget := (hread r hr (by decide +kernel) (by simpa [htrace] using hhost)).2 (by decide +kernel)
  exact ⟨value, hget, htext ▸ ht⟩

/-- The record is that of the replacement that was set first, and the value that is read is that of the last one. -/
theorem record_of_first_replacement :
    let c : Context := ⟨⟨Table.insert ∅ "old" ⟨["a", "b"], none⟩, ∅, []⟩, ⟨⟨Path.parse "/", []⟩, ∅, ∅, 0⟩⟩
    let s := (empty (.fixed ∅)).run
      [(c, .write (.text (some "a") (some "1") none)), (c, .write (.text (some "b") (some "2") none))]
    let r : Redactor := (Redactor.ofExpressions none).value.toOption.getD ⟨[]⟩
    (s.redactor c).value = .ok r ∧ (∀ name ∈ ["old", "a", "b"], r.isSensitive name = false) ∧
      (s.get c "old" none).value = .ok (some "2") ∧
      (s.writtenRecords c (some "old") "json").value = .ok (DumpFormat.json.written
        [("property", (⟨"a", some "1", false, ["programmatically"]⟩ : Declared).toJson)]) := by
  intro c s r
  have hf : DumpFormat.ofText "json" = .ok .json := Traced.eq_ok_of_toOption (by decide +kernel)
  have hs : (s.selected c (some "old")).value =
      .ok [⟨"a", some "1", false, ["programmatically"]⟩, ⟨"b", some "2", false, ["programmatically"]⟩] :=
    Traced.eq_ok_of_toOption (by decide +kernel)
  refine ⟨Traced.eq_ok_of_toOption ?_, by decide +kernel, Traced.eq_ok_of_toOption ?_, ?_⟩
  · decide +kernel
  · decide +kernel
  · rw [value_writtenRecords hf, hs]
    rfl

end Store
end ConfigLayers
