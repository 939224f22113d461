import ConfigLayers.Proofs.Failing
import ConfigLayers.Proofs.Substitution.FixedPoint
import ConfigLayers.Proofs.Substitution.Lookups
import ConfigLayers.Store.Read

/-! Values of a store with their references replaced. The name that a value is read under is told by errors alone,
and a redactor makes a difference to a value only if a sensitive name is looked up for it. -/
namespace ConfigLayers
namespace Store

variable {s : Store} {c : Context} {r : Redactor} {find : String → Option String}

theorem redact_of_isSensitive {name : String} (h : r.isSensitive name = true) (value : Option String) :
    r.redact name value = if value.isSome then some Redactor.mask else none := by
  rw [Redactor.redact, h]
  cases value <;> rfl

theorem redact_of_not_isSensitive {name : String} (h : r.isSensitive name = false) (value : Option String) :
    r.redact name value = value := by
  rw [Redactor.redact, h]
  rfl

theorem isSome_redact (r : Redactor) (name : String) (value : Option String) :
    (r.redact name value).isSome = value.isSome := by
  cases hr : r.isSensitive name with
  | true => cases value <;> simp [redact_of_isSensitive hr]
  | false => simp [redact_of_not_isSensitive hr]

theorem isSome_expand {redactor : Option Redactor} {value name x : Option String}
    (h : (s.expand c redactor value name).value = .ok x) : x.isSome = value.isSome := by
  have hf : ∀ {find}, (expandWith find value name).value = .ok x → x.isSome = value.isSome := by
    intro find hx
    rw [expandWith, Traced.value_rephrase_eq_ok_iff] at hx
    cases value with
    | none =>
      cases hx
      rfl
    | some value =>
      obtain ⟨text, -, hx⟩ := Traced.value_bind_eq_ok_iff.mp hx
      cases hx
      rfl
  cases redactor with
  | none => exact hf h
  | some r => exact hf h

theorem failsAs_expandWith (find : String → Option String) (value name : Option String) :
    FailsAs (·.kind = .substitution) (expandWith find value name).value := by
  cases value with
  | none => exact failsAs_ok none
  | some text =>
    intro e he
    simp only [expandWith, Substitution.substitute, Traced.value_rephrase, Traced.value_bind] at he
    cases hx : (Substitution.expand find (Substitution.standardLimit + 1).toNat text.toList).value with
    | ok result =>
      rw [hx] at he
      cases he
    | error fault =>
      rw [hx] at he
      cases he
      rfl

theorem failsAs_expand (s : Store) (c : Context) (redactor : Option Redactor) (value name : Option String) :
    FailsAs (·.kind = .substitution) (s.expand c redactor value name).value := by
  cases redactor with
  | none => exact failsAs_expandWith _ value name
  | some r => exact failsAs_expandWith _ value name

theorem failsAs_get (s : Store) (c : Context) (name : String) (default : Option String) :
    FailsAs (·.kind = .substitution) (s.get c name default).value :=
  s.failsAs_expand c none _ (some name)

theorem raw_of_get? {name : String} {e : Entry} (h : s.entries.get? name = some e)
    (hc : c.deprecations.isDeprecated name = false) : (s.raw c name).value = .ok e.value := by
  have ht := Deprecations.targets_of_not_isDeprecated hc
  change Except.ok (s.valueAmong (c.deprecations.targets name)) = _
  rw [ht, valueAmong, List.filterMap_cons, h]
  cases hv : e.value <;> simp [hv]

theorem get_of_raw {name value : String} (hr : (s.raw c name).value = .ok (some value))
    (he : Substitution.IsExpanded (s.lookup c) value.toList) : (s.get c name none).value = .ok (some value) := by
  rw [get, Traced.value_bind_ok _ hr, Option.some_or, expand, expandWith, Traced.value_rephrase_eq_ok_iff,
    Substitution.substitute_some]
  exact Substitution.expand_of_isExpanded he 20

theorem value_expandWith_rename {value name x : Option String} (h : (expandWith find value name).value = .ok x)
    (other : Option String) : (expandWith find value other).value = .ok x := by
  rw [expandWith, Traced.value_rephrase_eq_ok_iff] at h ⊢
  cases value with
  | none => exact h
  | some value =>
    obtain ⟨text, ht, hx⟩ := Traced.value_bind_eq_ok_iff.mp h
    exact Traced.value_bind_eq_ok_iff.mpr
      ⟨text, Traced.value_rephrase_eq_ok_iff.mpr (Traced.value_rephrase_eq_ok_iff.mp ht), hx⟩

theorem expand_redacted {value name : Option String}
    (h : ∀ ref, .resolved ref ∈ (s.expand c none value name).trace → r.isSensitive ref = false) :
    s.expand c (some r) value name = s.expand c none value name := by
  have hn : (Substitution.substitute value (s.lookup c) name Substitution.standardLimit).Notes
      fun ref => r.redact ref (s.lookup c ref) = s.lookup c ref := by
    intro ref hm
    exact redact_of_not_isSensitive (h ref (List.mem_map_of_mem hm)) _
  rw [expand, expand, expandWith, expandWith, Substitution.substitute_congr hn]

end Store
end ConfigLayers
