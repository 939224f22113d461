import ConfigLayers.Proofs.Document.Elements
import ConfigLayers.Proofs.Store.RoundTrip

/-! What is left of documents that are loaded, written and loaded again. A value without characters is lost, and
so is the finality of a name that is not stored. -/
namespace ConfigLayers

def Declared.again (p : Declared) : Declared :=
  ⟨p.name, (p.value.filter (· ≠ "")).map Text.trim, p.isFinal, p.sources.map Text.trim⟩

theorem Declared.IsNamed.reread?_eq {p : Declared} (h : p.IsNamed) : p.reread? = some p.again := by
  rw [Declared.reread?, h.2, if_neg h.1]
  rfl

namespace Store

variable {s : Store} {c : Context} {ps : List Declared}

def IsNamed (name : String) (_ : Entry) : Prop :=
  name ≠ "" ∧ Text.trim name = name

theorem isDeprecated_of_empty {d : Deprecations} (h : d.entries = ∅) (name : String) :
    d.isDeprecated name = false := by
  rw [Deprecations.isDeprecated, h]
  rfl

theorem All.addDocument (h : All IsNamed s) (hc : c.deprecations.entries = ∅) (r : Resource) :
    All IsNamed (s.after (s.addResource c r)) := by
  rw [after_addResource]
  split
  · exact h
  · split
    · rename_i ps hl
      refine h.added fun x hx _ => ?_
      rw [Statement.ofDeclared_eq_map fun p _ => isDeprecated_of_empty hc p.name] at hx
      obtain ⟨p, hp, rfl⟩ := List.mem_map.mp hx
      exact (Loader.isTrimmed_of_load hl hp).isNamed
    · exact h

theorem all_isNamed (resolver : Resolver) {xs : List (Context × Resource)}
    (hx : ∀ x ∈ xs, x.1.deprecations.entries = ∅) :
    All IsNamed ((empty resolver).run (xs.map fun x => (x.1, .add x.2))) := by
  refine run_induction (fun s y hy h => ?_) (all_empty resolver)
  obtain ⟨x, hm, rfl⟩ := List.mem_map.mp hy
  exact h.addDocument (hx x hm) x.2

theorem isSome_valueOf?_iff (hn : (ps.map Declared.name).Nodup) {name : String} :
    (valueOf? ps name).isSome = true ↔ ∃ p ∈ ps, p.name = name ∧ p.value.isSome = true := by
  constructor
  · intro h
    obtain ⟨value, hv⟩ := Option.isSome_iff_exists.mp h
    obtain ⟨p, hp, hpv⟩ := Option.bind_eq_some_iff.mp hv
    exact ⟨p, List.mem_of_find?_eq_some hp, by simpa using List.find?_some hp, by rw [hpv]; rfl⟩
  · rintro ⟨p, hp, rfl, hv⟩
    rw [valueOf?_of_mem hn hp]
    exact hv

theorem any_snapshot (s : Store) (name : String) :
    (s.snapshot.any fun p => p.name = name && p.isFinal) = (s.isFinal name && s.entries.contains name) := by
  rw [Bool.eq_iff_iff, List.any_eq_true, Bool.and_eq_true, Table.contains_iff]
  constructor
  · rintro ⟨p, hp, h⟩
    obtain ⟨entry, hm, rfl⟩ := List.mem_map.mp hp
    obtain ⟨rfl, hf⟩ : entry.1 = name ∧ s.isFinal entry.1 = true := by simpa using h
    exact ⟨hf, List.mem_map_of_mem hm⟩
  · rintro ⟨hf, hm⟩
    obtain ⟨entry, he, rfl⟩ := List.mem_map.mp hm
    exact ⟨⟨entry.1, entry.2.value, s.isFinal entry.1, entry.2.sources⟩, List.mem_map_of_mem he, by simpa using hf⟩

theorem isSome_again (p : Declared) : p.again.value.isSome = true ↔ p.value.isSome = true ∧ p.value ≠ some "" := by
  cases hv : p.value with
  | none => simp [Declared.again, hv]
  | some value => by_cases h : value = "" <;> simp [Declared.again, hv, Option.filter, h]

/-- Of the names that had a value, those have one again whose value has characters. -/
theorem isSome_get?_again (hn : (ps.map Declared.name).Nodup)
    (hd : ∀ p ∈ ps.map Declared.again, c.deprecations.isDeprecated p.name = false) (resolver : Resolver)
    (r : Resource) (name : String) :
    (valueOf? ((empty resolver).added c.deprecations r (ps.map Declared.again)).snapshot name).isSome = true ↔
      ∃ p ∈ ps, p.name = name ∧ p.value.isSome = true ∧ p.value ≠ some "" := by
  have hn' : ((ps.map Declared.again).map Declared.name).Nodup := by
    rw [List.map_map]
    exact hn
  rw [isSome_valueOf?_iff (nodup_snapshot _), snapshot_added hn' hd]
  simp only [List.mem_map, List.mem_filter]
  constructor
  · rintro ⟨_, ⟨_, ⟨⟨p, hp, rfl⟩, hv⟩, rfl⟩, hname, -⟩
    exact ⟨p, hp, hname, (isSome_again p).mp hv⟩
  · rintro ⟨p, hp, hname, hv⟩
    exact ⟨_, ⟨_, ⟨⟨p, hp, rfl⟩, (isSome_again p).mpr hv⟩, rfl⟩, hname, (isSome_again p).mpr hv⟩

theorem MaskedAs.any_isFinal {r : Redactor} (hm : s.MaskedAs c r s.snapshot ps) (name : String) :
    (ps.any fun p => p.name = name && p.isFinal) = (s.isFinal name && s.entries.contains name) := by
  have ha := congrArg (List.any · id) (hm.map_eq (f := fun p => p.name = name && p.isFinal) fun _ _ => rfl)
  simp only [List.any_map] at ha
  exact ha.trans (any_snapshot s name)

theorem MaskedAs.isSome_iff {r : Redactor} (hm : s.MaskedAs c r s.snapshot ps) {name : String}
    (hv : ((s.entries.get? name).bind Entry.value).isSome = true) :
    (∃ p ∈ ps, p.name = name ∧ p.value.isSome = true ∧ p.value ≠ some "") ↔ valueOf? ps name ≠ some "" := by
  have hn := hm.nodup
  have hps : (valueOf? ps name).isSome = true := by
    rw [hm.isSome_valueOf?, valueOf?_snapshot]
    exact hv
  obtain ⟨p, hp, rfl, hpv⟩ := (isSome_valueOf?_iff hn).mp hps
  constructor
  · rintro ⟨q, hq, hname, -, hne⟩
    rw [← hname, valueOf?_of_mem hn hq]
    exact hne
  · intro hne
    rw [valueOf?_of_mem hn hp] at hne
    exact ⟨p, hp, rfl, hpv, hne⟩

/-- Documents are loaded, the store is written, and what has been written is loaded into another store. There a
name that had a value has one again unless no character of it was written, and a name is final if it was final
and stored. -/
theorem resaved_documents (resolver : Resolver) {xs : List (Context × Resource)}
    (hx : ∀ x ∈ xs, x.1.deprecations.entries = ∅) (c : Context) {ps : List Declared}
    (hs : (((empty resolver).run (xs.map fun x => (x.1, .add x.2))).selected c none).value = .ok ps)
    (hl : ps.all Declared.isLegal = true) :
    let s := (empty resolver).run (xs.map fun x => (x.1, .add x.2))
    ∃ text, (s.writtenXml c none).value = .ok text ∧
      ∀ (c' : Context) (resolver' : Resolver) (r : Resource) (base : Option String),
        c'.deprecations.entries = ∅ → r.fetch resolver' c'.world = .ok ⟨Utf8.encode text.toList, base, none⟩ →
        ∃ t, ((empty resolver').addResource c' r).value = .ok t ∧
          (∀ name, ((s.entries.get? name).bind Entry.value).isSome = true →
            (((t.entries.get? name).bind Entry.value).isSome = true ↔ valueOf? ps name ≠ some "")) ∧
          ∀ name, t.isFinal name = (s.isFinal name && s.entries.contains name) := by
  intro s
  obtain ⟨r₀, -, hm⟩ := selected_all_ok hs
  refine ⟨_, writtenXml_eq_ok_iff.mpr ⟨ps, hs, hl, rfl⟩, fun c' resolver' r base hc hr => ?_⟩
  have hnamed : ∀ p ∈ ps, p.IsNamed := by
    intro p hp
    obtain ⟨e, he, -⟩ := hm.exists_entry hp
    exact all_isNamed resolver hx p.name e (.inl he)
  have hread : ps.filterMap Declared.reread? = ps.map Declared.again := by
    rw [List.filterMap_congr fun p hp => (hnamed p hp).reread?_eq, List.filterMap_eq_map']
  have hd : ∀ p ∈ ps.map Declared.again, c'.deprecations.isDeprecated p.name = false :=
    fun p _ => isDeprecated_of_empty hc p.name
  have hload : (Loader.load ⟨resolver', c'.world⟩ r).value = .ok (ps.map Declared.again) :=
    (Loader.value_load_document (s := ⟨resolver', c'.world⟩) hl hr).trans (congrArg Except.ok hread)
  refine ⟨_, value_addResource_empty hload, fun name hv => ?_, fun name => ?_⟩
  · rw [← valueOf?_snapshot, isSome_get?_again hm.nodup hd]
    exact hm.isSome_iff hv
  · rw [isFinal_added_of_current hd, List.any_map]
    exact hm.any_isFinal name

/-- A final value, with blanks that are trimmed. -/
theorem resaved_documents_final :
    let c : Context := ⟨.empty, ⟨⟨Path.parse "/", []⟩, ∅, ∅, 0⟩⟩
    let document : Resource := .stream (.text
      "<configuration><property name='a' value=' 1 ' final='true'/></configuration>") "one"
    let xs : List (Context × Resource) := [(c, document)]
    let s := (empty (.fixed ∅)).run (xs.map fun x => (x.1, .add x.2))
    let ps : List Declared := [⟨"a", some "1", true, ["one"]⟩]
    (∀ x ∈ xs, x.1.deprecations.entries = ∅) ∧ (s.selected c none).value = .ok ps ∧
      ps.all Declared.isLegal = true ∧
      ∃ text t, (s.writtenXml c none).value = .ok text ∧
        ((empty (.fixed ∅)).addResource c (.stream (.bytes (Utf8.encode text.toList)) "two")).value = .ok t ∧
        ((t.entries.get? "a").bind Entry.value).isSome = true ∧ t.isFinal "a" = true := by
  intro c document xs s ps
  have hx : ∀ x ∈ xs, x.1.deprecations.entries = ∅ := by simp [xs, c, Deprecations.empty]
  have hload : (Loader.load ⟨.fixed ∅, c.world⟩ document).value = .ok [⟨"a", some "1", true, []⟩] :=
    Traced.eq_ok_of_toOption (by decide +kernel)
  have hrun : s = (empty (.fixed ∅)).added c.deprecations document [⟨"a", some "1", true, []⟩] :=
    after_of_ok (value_addResource_empty hload)
  have hs : (s.selected c none).value = .ok ps := by
    rw [hrun]
    exact Traced.eq_ok_of_toOption (by decide +kernel)
  have hl : ps.all Declared.isLegal = true := by decide +kernel
  obtain ⟨text, ht, h⟩ := resaved_documents (.fixed ∅) hx c hs hl
  obtain ⟨t, ha, hv, hf⟩ := h c (.fixed ∅) (.stream (.bytes (Utf8.encode text.toList)) "two") none rfl rfl
  have hb : ((s.entries.get? "a").bind Entry.value).isSome = true := by
    rw [hrun]
    decide
  have hsa : (s.isFinal "a" && s.entries.contains "a") = true := by
    rw [hrun]
    decide
  exact ⟨hx, hs, hl, text, t, ht, ha, (hv "a" hb).mpr (by decide), (hf "a").trans hsa⟩

/-- A blank value, which is trimmed to one without characters, and a final name without a value are lost. -/
theorem resaving_loses_blank_and_valueless :
    let c : Context := ⟨.empty, ⟨⟨Path.parse "/", []⟩, ∅, ∅, 0⟩⟩
    let document : Resource := .stream (.text
      "<configuration><property name='a' value=' '/><property name='b' final='true'/></configuration>") "one"
    ∃ s text t, ((empty (.fixed ∅)).addResource c document).value = .ok s ∧ (s.writtenXml c none).value = .ok text ∧
      ((empty (.fixed ∅)).addResource c (.stream (.bytes (Utf8.encode text.toList)) "two")).value = .ok t ∧
      (s.entries.get? "a").bind Entry.value = some "" ∧ (t.entries.get? "a").bind Entry.value = none ∧
      s.isFinal "b" = true ∧ t.isFinal "b" = false := by
  intro c document
  let ps : List Declared := [⟨"a", some "", false, ["one"]⟩]
  let copy : Resource := .stream (.bytes (Utf8.encode (Declared.document ps).document.toList)) "two"
  let declared : List Declared := [⟨"a", some "", false, []⟩, ⟨"b", none, true, []⟩]
  have hload : (Loader.load ⟨.fixed ∅, c.world⟩ document).value = .ok declared :=
    Traced.eq_ok_of_toOption (by decide +kernel)
  have hs : (((empty (.fixed ∅)).added c.deprecations document declared).selected c none).value = .ok ps :=
    Traced.eq_ok_of_toOption (by decide +kernel)
  have hl : ps.all Declared.isLegal = true := by decide +kernel
  have hread : ps.filterMap Declared.reread? = [⟨"a", none, false, ["one"]⟩] := by decide +kernel
  have hcopy : (Loader.load ⟨.fixed ∅, c.world⟩ copy).value = .ok [⟨"a", none, false, ["one"]⟩] :=
    (Loader.value_load_document hl rfl).trans (congrArg Except.ok hread)
  refine ⟨_, _, _, value_addResource_empty hload, writtenXml_eq_ok_iff.mpr ⟨ps, hs, hl, rfl⟩,
    value_addResource_empty hcopy, ?_, ?_, ?_, ?_⟩
  · decide
  · decide
  · decide
  · decide

end Store
end ConfigLayers
