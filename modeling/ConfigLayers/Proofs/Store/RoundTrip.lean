import ConfigLayers.Proofs.Document.Reread
import ConfigLayers.Proofs.Store.Fresh
import ConfigLayers.Proofs.Store.Provenance
import ConfigLayers.Proofs.Store.Selected

/-! A store that is written and loaded again. Its properties come back in their order with their values, sources
and finality, and reading them replaces nothing any more. -/
namespace ConfigLayers

/-- A property that loses nothing to a document: its name is in use, and all its texts are trimmed and, but for
sources, not empty. -/
structure Declared.Keeps (d : Deprecations) (p : Declared) : Prop where
  named : p.name ≠ "" ∧ Text.trim p.name = p.name
  current : d.isDeprecated p.name = false
  valued : ∃ value, p.value = some value ∧ value ≠ "" ∧ Text.trim value = value
  sourced : ∀ source ∈ p.sources, Text.trim source = source

theorem Declared.Keeps.reread?_eq {d : Deprecations} {p : Declared} (h : p.Keeps d) : p.reread? = some p := by
  obtain ⟨value, hv, hne, ht⟩ := h.valued
  have hs : p.sources.map Text.trim = p.sources := by
    simpa using List.map_congr_left (g := id) h.sourced
  obtain ⟨hn, htn⟩ := h.named
  obtain ⟨name, _, isFinal, sources⟩ := p
  simp_all [Declared.reread?]

namespace Store

variable {s t : Store} {c c' : Context} {r : Redactor} {ps : List Declared}

theorem isExpanded_mask (find : String → Option String) : Substitution.IsExpanded find Redactor.mask.toList := by
  intro name _ hw
  have hd : '$' ∈ Redactor.mask.toList := hw.subset (by simp [Substitution.written])
  exact absurd hd (by decide +kernel)

theorem isExpanded_of_masked {p q : Declared} {value : String} (h : (s.masked c r p).value = .ok q)
    (hv : q.value = some value) : Substitution.IsExpanded (s.lookup c) value.toList := by
  obtain ⟨x, hx, rfl⟩ := masked_ok h
  cases hr : r.isSensitive p.name with
  | true =>
    have hm : value = Redactor.mask := by
      simp only [redact_of_isSensitive hr] at hv
      split at hv
      · exact (Option.some.inj hv).symm
      · cases hv
    rw [hm]
    exact isExpanded_mask _
  | false =>
    simp only [redact_of_not_isSensitive hr] at hv
    subst hv
    have hp : p.value.isSome = true := (isSome_expand hx).symm
    obtain ⟨given, hg⟩ := Option.isSome_iff_exists.mp hp
    rw [hg] at hx
    have he := Substitution.isExpanded_of_expand
      (Substitution.substitute_some.mp (Traced.value_rephrase_eq_ok_iff.mp hx))
    intro name hn hw
    have hl := congrArg Option.isSome (he name hn hw)
    rw [isSome_redact] at hl
    exact Option.not_isSome_iff_eq_none.mp (Bool.eq_false_iff.mp hl)

theorem MaskedAs.map_eq {β : Type} {f : Declared → β} {found : List Declared} (h : s.MaskedAs c r found ps)
    (hf : ∀ p value, f { p with value } = f p) : ps.map f = found.map f := by
  induction h with
  | nil => rfl
  | cons hp _ ih =>
    obtain ⟨x, -, rfl⟩ := masked_ok hp
    rw [List.map_cons, List.map_cons, ih, hf]

theorem MaskedAs.isSome_valueOf? {found : List Declared} (h : s.MaskedAs c r found ps) (name : String) :
    (valueOf? ps name).isSome = (valueOf? found name).isSome := by
  induction h with
  | nil => rfl
  | @cons p q found ps hp _ ih =>
    have hv := isSome_masked hp
    obtain ⟨x, -, rfl⟩ := masked_ok hp
    by_cases hn : p.name = name
    · simpa [valueOf?, hn] using hv
    · simpa [valueOf?, hn] using ih

theorem MaskedAs.nodup (h : s.MaskedAs c r s.snapshot ps) : (ps.map Declared.name).Nodup := by
  rw [h.map_eq fun _ _ => rfl]
  exact nodup_snapshot s

theorem raw_of_valueOf? {name value : String} (hd : c.deprecations.isDeprecated name = false)
    (hv : valueOf? s.snapshot name = some value) : (s.raw c name).value = .ok (some value) := by
  change Except.ok (s.valueAmong (c.deprecations.targets name)) = _
  rw [Deprecations.targets_of_not_isDeprecated hd, valueAmong_eq]
  simp [hv]

theorem lookup_eq_none (hd : c'.deprecations.entries = c.deprecations.entries)
    (he : c'.world.environment = c.world.environment)
    (hv : ∀ name, (valueOf? t.snapshot name).isSome = (valueOf? s.snapshot name).isSome) {ref : String}
    (h : s.lookup c ref = none) : t.lookup c' ref = none := by
  have ht : c'.deprecations.targets ref = c.deprecations.targets ref := by
    rw [Deprecations.targets, Deprecations.targets, hd]
  have hs := isSome_valueAmong_congr hv (c.deprecations.targets ref)
  rw [lookup, Option.or_eq_none_iff] at h ⊢
  rw [h.1] at hs
  rw [ht, he]
  exact ⟨Option.not_isSome_iff_eq_none.mp (Bool.eq_false_iff.mp hs), h.2⟩

theorem MaskedAs.exists_mem {found : List Declared} (h : s.MaskedAs c r found ps) {q : Declared} (hq : q ∈ ps) :
    ∃ p ∈ found, (s.masked c r p).value = .ok q := by
  induction h with
  | nil => cases hq
  | cons hp _ ih =>
    rcases List.mem_cons.mp hq with rfl | hq
    · exact ⟨_, List.mem_cons_self, hp⟩
    · obtain ⟨p, hm, hp⟩ := ih hq
      exact ⟨p, List.mem_cons_of_mem _ hm, hp⟩

theorem MaskedAs.exists_entry (h : s.MaskedAs c r s.snapshot ps) {p : Declared} (hp : p ∈ ps) :
    ∃ e, s.entries.get? p.name = some e ∧ p.sources = e.sources := by
  obtain ⟨q, hq, hp⟩ := h.exists_mem hp
  obtain ⟨x, -, rfl⟩ := masked_ok hp
  obtain ⟨⟨name, e⟩, he, rfl⟩ := List.mem_map.mp hq
  exact ⟨e, Table.find_of_mem s.entries.nodup he, rfl⟩

theorem sources_ofStream {p : Declared} (h : p.sources ≠ []) (stream : Stream) (name : String) :
    (Origin.ofResource (.stream stream name)).sources p = p.sources := by
  have he : p.sources.isEmpty = false := by simpa using h
  rw [Origin.sources, he]
  exact List.append_nil _

theorem snapshot_added_stream {d : Deprecations} (hn : (ps.map Declared.name).Nodup)
    (hd : ∀ p ∈ ps, d.isDeprecated p.name = false) (hv : ∀ p ∈ ps, p.value.isSome = true)
    (hs : ∀ p ∈ ps, p.sources ≠ []) (resolver : Resolver) (stream : Stream) (name : String) :
    ((empty resolver).added d (.stream stream name) ps).snapshot = ps := by
  rw [snapshot_added hn hd, List.filter_eq_self.mpr hv]
  refine (List.map_congr_left fun p hp => ?_).trans (List.map_id ps)
  rw [sources_ofStream (hs p hp)]
  rfl

/-- A store that has been written and is loaded as a stream of bytes comes back as it was written: the same
properties in the same order with the same values, sources and finality, each of which is read as it stands.
All that is asked for is that no text is lost to trimming, that each value has characters, and that the names
are in use. -/
theorem written_document_reloads (resolver : Resolver) (xs : List (Context × Operation)) (c : Context)
    {ps : List Declared} (hs : (((empty resolver).run xs).selected c none).value = .ok ps)
    (hk : ∀ p ∈ ps, p.Keeps c.deprecations) (hl : ps.all Declared.isLegal = true) :
    ∃ text, (((empty resolver).run xs).writtenXml c none).value = .ok text ∧
      ∀ (c' : Context) (resolver' : Resolver) (name : String),
        c'.deprecations.entries = c.deprecations.entries → c'.world.environment = c.world.environment →
        ∃ t, ((empty resolver').addResource c' (.stream (.bytes (Utf8.encode text.toList)) name)).value = .ok t ∧
          t.snapshot = ps ∧ ∀ p ∈ ps, (t.get c' p.name none).value = .ok p.value := by
  obtain ⟨r, -, hm⟩ := selected_all_ok hs
  refine ⟨_, writtenXml_eq_ok_iff.mpr ⟨ps, hs, hl, rfl⟩, fun c' resolver' name hd he => ?_⟩
  have hcur : ∀ p ∈ ps, c'.deprecations.isDeprecated p.name = false := by
    intro p hp
    rw [Deprecations.isDeprecated, hd]
    exact (hk p hp).current
  have hn := hm.nodup
  have hsource : ∀ p ∈ ps, p.sources ≠ [] := by
    intro p hp
    obtain ⟨e, he, hp⟩ := hm.exists_entry hp
    exact hp ▸ sources_run_ne_nil resolver xs he
  have hread : ps.filterMap Declared.reread? = ps := by
    rw [List.filterMap_congr fun p hp => (hk p hp).reread?_eq, List.filterMap_some]
  have hval : ∀ p ∈ ps, p.value.isSome = true := by
    intro p hp
    obtain ⟨value, hv, -⟩ := (hk p hp).valued
    rw [hv]
    rfl
  let stream : Resource := .stream (.bytes (Utf8.encode (Declared.document ps).document.toList)) name
  have hload : (Loader.load ⟨resolver', c'.world⟩ stream).value = .ok ps :=
    (Loader.value_load_document (s := ⟨resolver', c'.world⟩) hl rfl).trans (congrArg Except.ok hread)
  have hsnap : ((empty resolver').added c'.deprecations stream ps).snapshot = ps :=
    snapshot_added_stream hn hcur hval hsource resolver' _ name
  refine ⟨_, value_addResource_empty hload, hsnap, fun p hp => ?_⟩
  obtain ⟨value, hv, -⟩ := (hk p hp).valued
  obtain ⟨q, -, hq⟩ := hm.exists_mem hp
  rw [hv]
  refine get_of_raw (raw_of_valueOf? (hcur p hp) ?_) fun ref hr hw => ?_
  · rw [hsnap, valueOf?_of_mem hn hp, hv]
  · refine lookup_eq_none hd he (fun name => ?_) (isExpanded_of_masked hq hv ref hr hw)
    rw [hsnap, hm.isSome_valueOf?]

/-- A masked value, one of the environment, one with a reference that stands for nothing, and one with marks of
the document in it. -/
theorem written_document_reloads_masked :
    let c : Context := ⟨⟨Table.insert ∅ "old" ⟨["host"], none⟩, ∅, []⟩,
      ⟨⟨Path.parse "/", []⟩, Table.insert ∅ "HOST" "here", ∅, 0⟩⟩
    let xs : List (Context × Operation) := [(c, .apply (.named "x.xml" false)
        [⟨"db.password", some "hunter2", true, ["tag"]⟩, ⟨"old", some "$\x7bHOST\x7d", false, []⟩,
          ⟨"url", some "$\x7bhost\x7d/$\x7bdb.password\x7d?$\x7bnone\x7d", false, []⟩]),
      (c, .write (.text (some "user") (some "a & b") none))]
    let ps : List Declared := [⟨"db.password", some "<redacted>", true, ["tag", "x.xml"]⟩,
      ⟨"host", some "here", false, ["x.xml"]⟩, ⟨"url", some "here/<redacted>?$\x7bnone\x7d", false, ["x.xml"]⟩,
      ⟨"user", some "a & b", false, ["programmatically"]⟩]
    (((empty (.fixed ∅)).run xs).selected c none).value = .ok ps ∧ (∀ p ∈ ps, p.Keeps c.deprecations) ∧
      ps.all Declared.isLegal = true ∧
      ∃ text t, (((empty (.fixed ∅)).run xs).writtenXml c none).value = .ok text ∧
        ((empty (.fixed ∅)).addResource c (.stream (.bytes (Utf8.encode text.toList)) "copy")).value = .ok t ∧
        t.snapshot = ps ∧ (t.get c "url" none).value = .ok (some "here/<redacted>?$\x7bnone\x7d") := by
  intro c xs ps
  have hs : (((empty (.fixed ∅)).run xs).selected c none).value = .ok ps :=
    Traced.eq_ok_of_toOption (by decide +kernel)
  have hk : ∀ p ∈ ps, p.Keeps c.deprecations := by
    intro p hp
    simp only [ps, List.mem_cons, List.not_mem_nil, or_false] at hp
    rcases hp with rfl | rfl | rfl | rfl <;>
      exact ⟨⟨by decide, by decide⟩, by decide, ⟨_, rfl, by decide, by decide⟩, by decide⟩
  have hl : ps.all Declared.isLegal = true := by decide +kernel
  obtain ⟨text, ht, h⟩ := written_document_reloads (.fixed ∅) xs c hs hk hl
  obtain ⟨t, ha, hp, hg⟩ := h c (.fixed ∅) "copy" rfl rfl
  have hu := hg ⟨"url", some "here/<redacted>?$\x7bnone\x7d", false, ["x.xml"]⟩ (by simp [ps])
  exact ⟨hs, hk, hl, text, t, ht, ha, hp, hu⟩

end Store
end ConfigLayers
