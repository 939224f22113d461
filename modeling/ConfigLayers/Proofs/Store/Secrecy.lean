import ConfigLayers.Proofs.Store.Operations
import ConfigLayers.Proofs.Store.Selected
import Mathlib.Data.List.Forall2

/-! What is written of a store does not depend on its secrets. References are masked by the name that is
written in them, so a value is a secret if its own name is sensitive and so is every name that stands for it. -/
namespace ConfigLayers

/-- Whether the values of a name stay hidden: no name that stands for it, and not its own, is written in the
clear. -/
def Redactor.Hides (r : Redactor) (d : Deprecations) (name : String) : Prop :=
  r.isSensitive name = true ∧ ∀ other, name ∈ d.targets other → r.isSensitive other = true

/-- The second property is the first, but for its value if that is a secret. -/
structure Declared.Alike (hidden : String → Prop) (p q : Declared) : Prop where
  name : q.name = p.name
  isFinal : q.isFinal = p.isFinal
  sources : q.sources = p.sources
  value : q.value = p.value ∨ hidden p.name ∧ p.value.isSome = true ∧ q.value.isSome = true

namespace Store

/-- Two stores with the same names in the same order, equally final and from the same sources, whose values
differ in secrets alone. -/
def Alike (hidden : String → Prop) (s t : Store) : Prop :=
  List.Forall₂ (Declared.Alike hidden) s.snapshot t.snapshot

variable {s t : Store} {c : Context} {r : Redactor} {hidden : String → Prop}

theorem valueOf?_of_alike {ps qs : List Declared} (h : List.Forall₂ (Declared.Alike hidden) ps qs) (name : String) :
    valueOf? qs name = valueOf? ps name ∨
      hidden name ∧ (valueOf? ps name).isSome = true ∧ (valueOf? qs name).isSome = true := by
  induction h with
  | nil => exact .inl rfl
  | cons hp hps ih =>
    rename_i p q ps qs
    by_cases hn : p.name = name
    · have hv := hp.value
      rw [hn] at hv
      simpa [valueOf?, List.find?_cons, hp.name, hn] using hv
    · simpa [valueOf?, List.find?_cons, hp.name, hn] using ih

theorem isSome_valueAmong (h : Alike hidden s t) (names : List String) :
    (t.valueAmong names).isSome = (s.valueAmong names).isSome := by
  have hv : ∀ name, (valueOf? t.snapshot name).isSome = (valueOf? s.snapshot name).isSome := by
    intro name
    rcases valueOf?_of_alike h name with he | ⟨-, hp, hq⟩
    · rw [he]
    · rw [hp, hq]
  exact isSome_valueAmong_congr hv names

theorem valueAmong_of_alike (h : Alike hidden s t) {names : List String} (hn : ∀ name ∈ names, ¬ hidden name) :
    t.valueAmong names = s.valueAmong names := by
  rw [valueAmong_eq, valueAmong_eq]
  have hv : names.filterMap (valueOf? t.snapshot) = names.filterMap (valueOf? s.snapshot) := by
    refine List.filterMap_congr fun name hm => ?_
    rcases valueOf?_of_alike h name with he | ⟨hh, -⟩
    · exact he
    · exact absurd hh (hn name hm)
  rw [hv]

theorem redact_lookup (h : Alike (r.Hides c.deprecations) s t) (ref : String) :
    r.redact ref (t.lookup c ref) = r.redact ref (s.lookup c ref) := by
  cases hr : r.isSensitive ref with
  | true =>
    have hv := isSome_valueAmong h (c.deprecations.targets ref)
    rw [redact_of_isSensitive hr, redact_of_isSensitive hr, lookup, lookup, Option.isSome_or, hv,
      ← Option.isSome_or]
  | false =>
    have hv : t.valueAmong (c.deprecations.targets ref) = s.valueAmong (c.deprecations.targets ref) := by
      refine valueAmong_of_alike h fun name hm hh => ?_
      have hs := hh.2 ref hm
      simp [hr] at hs
    rw [lookup, lookup, hv]

theorem expand_of_alike (h : Alike (r.Hides c.deprecations) s t) (value name : Option String) :
    t.expand c (some r) value name = s.expand c (some r) value name := by
  have hf : (fun ref => r.redact ref (t.lookup c ref)) = fun ref => r.redact ref (s.lookup c ref) :=
    funext (redact_lookup h)
  rw [expand, expand]
  exact congrArg (expandWith · value name) hf

theorem masked_of_alike (h : Alike (r.Hides c.deprecations) s t) {p q p' q' : Declared}
    (hp : Declared.Alike (r.Hides c.deprecations) p q) (hs : (s.masked c r p).value = .ok p')
    (ht : (t.masked c r q).value = .ok q') : q' = p' := by
  obtain ⟨x, hx, hs⟩ := Traced.value_bind_eq_ok_iff.mp hs
  obtain ⟨y, hy, ht⟩ := Traced.value_bind_eq_ok_iff.mp ht
  cases hs
  cases ht
  rw [hp.name, expand_of_alike h] at hy
  have hv : r.redact q.name y = r.redact p.name x := by
    rw [hp.name]
    rcases hp.value with he | ⟨hh, hpv, hqv⟩
    · rw [he, hx] at hy
      cases hy
      rfl
    · rw [redact_of_isSensitive hh.1, redact_of_isSensitive hh.1, isSome_expand hx, isSome_expand hy, hpv, hqv]
  obtain ⟨name, value, isFinal, sources⟩ := p
  obtain ⟨name', value', isFinal', sources'⟩ := q
  obtain rfl : name' = name := hp.name
  obtain rfl : isFinal' = isFinal := hp.isFinal
  obtain rfl : sources' = sources := hp.sources
  simp only [hv]

theorem maskedAll_of_alike (h : Alike (r.Hides c.deprecations) s t) {ps qs ps' qs' : List Declared}
    (hp : List.Forall₂ (Declared.Alike (r.Hides c.deprecations)) ps qs) (hs : (s.maskedAll c r ps).value = .ok ps')
    (ht : (t.maskedAll c r qs).value = .ok qs') : qs' = ps' := by
  induction hp generalizing ps' qs' with
  | nil =>
    cases hs
    cases ht
    rfl
  | cons hp hps ih =>
    obtain ⟨p', hp', hs⟩ := Traced.value_bind_eq_ok_iff.mp hs
    obtain ⟨ps₁, hps', hs⟩ := Traced.value_bind_eq_ok_iff.mp hs
    obtain ⟨q', hq', ht⟩ := Traced.value_bind_eq_ok_iff.mp ht
    obtain ⟨qs₁, hqs', ht⟩ := Traced.value_bind_eq_ok_iff.mp ht
    cases hs
    cases ht
    rw [masked_of_alike h hp hp' hq', ih hps' hqs']

theorem chosen_of_alike (h : Alike hidden s t) {name : Option String} {ps qs : List Declared}
    (hs : (s.chosen c name).value = .ok ps) (ht : (t.chosen c name).value = .ok qs) :
    List.Forall₂ (Declared.Alike hidden) ps qs := by
  have hf : ∀ names : List String, List.Forall₂ (Declared.Alike hidden)
      (s.snapshot.filter fun p => names.contains p.name) (t.snapshot.filter fun q => names.contains q.name) :=
    fun names => List.rel_filter (fun p q hp => by simp only [hp.name]) h
  cases name with
  | none =>
    cases hs
    cases ht
    exact h
  | some name =>
    by_cases hn : name = ""
    · subst hn
      cases hs
      cases ht
      exact h
    · rw [chosen_some hn hs, chosen_some hn ht]
      exact hf _

/-- Stores that are alike but for secrets are written the same, as a document and as records, in whole or for
one name, whichever references lead to the secrets. -/
theorem dumps_hide_secrets {s t : Store} {c : Context} {r : Redactor} (hs : (s.redactor c).value = .ok r)
    (ht : (t.redactor c).value = .ok r) (h : Alike (r.Hides c.deprecations) s t) (name : Option String) :
    (∀ x y, (s.writtenXml c name).value = .ok x → (t.writtenXml c name).value = .ok y → x = y) ∧
      ∀ format x y, (s.writtenRecords c name format).value = .ok x →
        (t.writtenRecords c name format).value = .ok y → x = y := by
  have hp : ∀ {ps qs}, (s.selected c name).value = .ok ps → (t.selected c name).value = .ok qs → qs = ps := by
    intro ps qs hps hqs
    obtain ⟨found, r₁, hf, hr, hm⟩ := selected_ok hps
    obtain ⟨found', r₂, hf', hr', hm'⟩ := selected_ok hqs
    rw [hs] at hr
    rw [ht] at hr'
    cases hr
    cases hr'
    exact maskedAll_of_alike h (chosen_of_alike h hf hf') hm hm'
  refine ⟨fun x y hx hy => ?_, fun format x y hx hy => ?_⟩
  · obtain ⟨ps, hps, hx⟩ := Traced.value_bind_eq_ok_iff.mp hx
    obtain ⟨qs, hqs, hy⟩ := Traced.value_bind_eq_ok_iff.mp hy
    rw [hp hps hqs, hx] at hy
    exact Except.ok.inj hy
  · obtain ⟨f, hf, hx⟩ := Traced.value_bind_eq_ok_iff.mp hx
    obtain ⟨f', hf', hy⟩ := Traced.value_bind_eq_ok_iff.mp hy
    obtain ⟨ps, hps, hx⟩ := Traced.value_bind_eq_ok_iff.mp hx
    obtain ⟨qs, hqs, hy⟩ := Traced.value_bind_eq_ok_iff.mp hy
    rw [hf] at hf'
    cases hf'
    rw [hp hps hqs, hx] at hy
    exact Except.ok.inj hy

/-- A secret that is read by its own name, by a chain of references and by a deprecated name that is sensitive
too. -/
theorem dumps_hide_secrets_chained :
    let c : Context := ⟨⟨Table.insert ∅ "old.password" ⟨["db.password"], none⟩, ∅, []⟩, ⟨⟨Path.parse "/", []⟩, ∅, ∅, 0⟩⟩
    let withSecret (secret : String) : Store := (empty (.fixed ∅)).run [(c, .apply (.named "x.xml" false)
      [⟨"db.password", some secret, false, []⟩, ⟨"dsn", some "$\x7bold.password\x7d", false, []⟩,
        ⟨"url", some "$\x7bdsn\x7d@$\x7bdb.password\x7d", true, []⟩])]
    let r : Redactor := (Redactor.ofExpressions none).value.toOption.getD ⟨[]⟩
    ((withSecret "one").redactor c).value = .ok r ∧ ((withSecret "two").redactor c).value = .ok r ∧
      Alike (r.Hides c.deprecations) (withSecret "one") (withSecret "two") ∧
      ∃ text, ((withSecret "one").writtenXml c none).value = .ok text ∧
        ((withSecret "two").writtenXml c none).value = .ok text := by
  intro c withSecret r
  have hs : ((withSecret "one").redactor c).value = .ok r := Traced.eq_ok_of_toOption (by decide +kernel)
  have ht : ((withSecret "two").redactor c).value = .ok r := Traced.eq_ok_of_toOption (by decide +kernel)
  have hh : r.Hides c.deprecations "db.password" := by
    refine ⟨by decide +kernel, fun other ho => ?_⟩
    by_cases hn : other = "old.password"
    · rw [hn]
      decide +kernel
    · have hd : c.deprecations.targets other = [other] := by simp [c, Deprecations.targets, hn]
      rw [hd, List.mem_singleton] at ho
      rw [← ho]
      decide +kernel
  have h : Alike (r.Hides c.deprecations) (withSecret "one") (withSecret "two") :=
    .cons ⟨rfl, rfl, rfl, .inr ⟨hh, rfl, rfl⟩⟩ (.cons ⟨rfl, rfl, rfl, .inl rfl⟩ (.cons ⟨rfl, rfl, rfl, .inl rfl⟩ .nil))
  obtain ⟨x, hx⟩ : ∃ x, ((withSecret "one").writtenXml c none).value.toOption = some x :=
    Option.isSome_iff_exists.mp (by decide +kernel)
  obtain ⟨y, hy⟩ : ∃ y, ((withSecret "two").writtenXml c none).value.toOption = some y :=
    Option.isSome_iff_exists.mp (by decide +kernel)
  have hxy := (dumps_hide_secrets hs ht h none).1 x y (Traced.eq_ok_of_toOption hx) (Traced.eq_ok_of_toOption hy)
  exact ⟨hs, ht, h, x, Traced.eq_ok_of_toOption hx, hxy ▸ Traced.eq_ok_of_toOption hy⟩

/-- A reference by a deprecated name that is not sensitive shows the secret that it stands for. -/
theorem deprecated_name_reveals_secret :
    let c : Context := ⟨⟨Table.insert ∅ "old" ⟨["db.password"], none⟩, ∅, []⟩, ⟨⟨Path.parse "/", []⟩, ∅, ∅, 0⟩⟩
    let withSecret (secret : String) : Store := (empty (.fixed ∅)).run [(c, .apply (.named "x.xml" false)
      [⟨"db.password", some secret, false, []⟩, ⟨"url", some "app:$\x7bold\x7d", false, []⟩])]
    let r : Redactor := (Redactor.ofExpressions none).value.toOption.getD ⟨[]⟩
    ((withSecret "one").redactor c).value = .ok r ∧ ((withSecret "two").redactor c).value = .ok r ∧
      Alike (fun name => r.isSensitive name = true) (withSecret "one") (withSecret "two") ∧
      ((withSecret "one").selected c none).value = .ok [⟨"db.password", some "<redacted>", false, ["x.xml"]⟩,
        ⟨"url", some "app:one", false, ["x.xml"]⟩] ∧
      ((withSecret "two").selected c none).value = .ok [⟨"db.password", some "<redacted>", false, ["x.xml"]⟩,
        ⟨"url", some "app:two", false, ["x.xml"]⟩] := by
  intro c withSecret r
  have hr : r.isSensitive "db.password" = true := by decide +kernel
  refine ⟨Traced.eq_ok_of_toOption ?_, Traced.eq_ok_of_toOption ?_,
    .cons ⟨rfl, rfl, rfl, .inr ⟨hr, rfl, rfl⟩⟩ (.cons ⟨rfl, rfl, rfl, .inl rfl⟩ .nil),
    Traced.eq_ok_of_toOption ?_, Traced.eq_ok_of_toOption ?_⟩
  · decide +kernel
  · decide +kernel
  · decide +kernel
  · decide +kernel

end Store
end ConfigLayers
