import ConfigLayers.Proofs.Document.Missing
import ConfigLayers.Proofs.Store.Atomicity
import ConfigLayers.Proofs.Store.Rebuild

/-! Documents that a store loads by itself. One is passed over exactly if it is lacking: not found, found and not
readable, or without something that it includes. All others are added, and a reload lays anew what can be loaded
again. -/
namespace ConfigLayers
namespace Store

variable {c : Context} {s t : Store} {r : Resource} {resolver : Resolver} {names : List String}
  {documents : List (Resource × List Declared)}

/-- A store that has only loaded documents by itself: those of some names, but for the ones that are lacking. -/
structure HasDefaults (c : Context) (resolver : Resolver) (names : List String) (s : Store) : Prop where
  searches : s.resolver = resolver
  isBuilt : ∃ documents, BuiltFrom c documents s
  resources : ∀ r ∈ s.resources, ∃ name ∈ names, r = .ofName name true
  added : ∀ name ∈ names, .ofName name true ∈ s.resources ∨ Loader.Lacking ⟨resolver, c.world⟩ (Text.trim name)

theorem hasDefaults_empty (c : Context) (resolver : Resolver) : HasDefaults c resolver [] (empty resolver) where
  searches := rfl
  isBuilt := ⟨[], rfl, by simp, by simp, fun _ => rfl, fun _ => rfl⟩
  resources := by simp [empty]
  added := by simp

theorem HasDefaults.mem_of_holdsResource (h : HasDefaults c resolver names s) {name : String}
    (hh : s.holdsResource (.ofName name true) = true) : .ofName name true ∈ s.resources := by
  obtain ⟨r, hm, hs⟩ := List.any_eq_true.mp hh
  obtain ⟨other, -, rfl⟩ := h.resources r hm
  have hn : Text.trim name = Text.trim other := beq_iff_eq.mp hs
  rw [Resource.ofName, hn]
  exact hm

theorem HasDefaults.add (h : HasDefaults c resolver names s) {name : String}
    (ht : (s.addResource c (.ofName name true)).value = .ok t) : HasDefaults c resolver (names ++ [name]) t := by
  obtain ⟨documents, hb⟩ := h.isBuilt
  have hmem : ∀ other ∈ names, other ∈ names ++ [name] := fun other ho => List.mem_append_left _ ho
  rcases addResource_ok ht with ⟨rfl, hh⟩ | ⟨-, ps, hl, rfl⟩
  · refine ⟨h.searches, h.isBuilt, fun r hm => ?_, fun other ho => ?_⟩
    · obtain ⟨other, ho, rfl⟩ := h.resources r hm
      exact ⟨other, hmem other ho, rfl⟩
    · rcases List.mem_append.mp ho with ho | ho
      · exact h.added other ho
      · rw [List.mem_singleton.mp ho]
        rcases hh with hh | ⟨-, e, hl, he⟩
        · exact .inl (h.mem_of_holdsResource hh)
        · exact .inr (Loader.lacking_of_load (h.searches ▸ hl) he)
  · have hf := frame_added s c.deprecations (.ofName name true) ps
    have hr : (s.added c.deprecations (.ofName name true) ps).resources = s.resources ++ [.ofName name true] :=
      hf.resources
    refine ⟨hf.resolver.trans h.searches, ⟨_, hb.added rfl hl⟩, fun r hm => ?_, fun other ho => ?_⟩
    · rw [hr] at hm
      rcases List.mem_append.mp hm with hm | hm
      · obtain ⟨other, ho, rfl⟩ := h.resources r hm
        exact ⟨other, hmem other ho, rfl⟩
      · exact ⟨name, by simp, List.mem_singleton.mp hm⟩
    · rw [hr]
      rcases List.mem_append.mp ho with ho | ho
      · exact (h.added other ho).imp_left (List.mem_append_left _)
      · rw [List.mem_singleton.mp ho]
        exact .inl (by simp)

theorem HasDefaults.addAll (h : HasDefaults c resolver names s) {more : List String}
    (ht : (more.foldlM (fun (s : Store) name => s.addResource c (.ofName name true)) s).value = .ok t) :
    HasDefaults c resolver (names ++ more) t := by
  induction more generalizing names s with
  | nil =>
    cases ht
    rw [List.append_nil]
    exact h
  | cons name more ih =>
    rw [List.foldlM_cons] at ht
    obtain ⟨u, hu, ht⟩ := Traced.value_bind_eq_ok_iff.mp ht
    have hall := ih (h.add hu) ht
    rwa [List.append_assoc] at hall

theorem BuiltFrom.not_lacking (h : BuiltFrom c documents s) {name : String} (hm : .named name true ∈ s.resources) :
    ¬ Loader.Lacking ⟨s.resolver, c.world⟩ name := by
  intro hl
  rw [h.resources] at hm
  obtain ⟨x, hx, hn⟩ := List.mem_map.mp hm
  have hload := h.loads x hx
  rw [hn] at hload
  exact hl.load_ne_ok _ hload

theorem declared_ok {found : Option (List Declared)} (h : (s.declared c r).value = .ok found) :
    (∃ ps, found = some ps ∧ (Loader.load ⟨s.resolver, c.world⟩ r).value = .ok ps) ∨
      found = none ∧ r.isDefault = true ∧
        ∃ e, (Loader.load ⟨s.resolver, c.world⟩ r).value = .error e ∧ e.kind = .resourceUnavailable := by
  rw [value_declared] at h
  cases hl : (Loader.load ⟨s.resolver, c.world⟩ r).value with
  | ok ps =>
    rw [hl] at h
    cases h
    exact .inl ⟨ps, rfl, rfl⟩
  | error e =>
    simp only [hl] at h
    split at h
    · rename_i hm
      cases h
      rw [Bool.and_eq_true, beq_iff_eq] at hm
      exact .inr ⟨rfl, hm.1, e, rfl, hm.2⟩
    · cases h

theorem declaredAll_ok {rs : List Resource} (h : (s.declaredAll c rs).value = .ok documents) :
    (∀ x ∈ documents, x.1 ∈ rs ∧ (Loader.load ⟨s.resolver, c.world⟩ x.1).value = .ok x.2) ∧
      ∀ r ∈ rs, r ∈ documents.map Prod.fst ∨ r.isDefault = true ∧
        ∃ e, (Loader.load ⟨s.resolver, c.world⟩ r).value = .error e ∧ e.kind = .resourceUnavailable := by
  induction rs generalizing documents with
  | nil =>
    cases h
    exact ⟨by simp, by simp⟩
  | cons r rs ih =>
    obtain ⟨first, hfirst, h⟩ := Traced.value_bind_eq_ok_iff.mp h
    obtain ⟨others, hothers, h⟩ := Traced.value_bind_eq_ok_iff.mp h
    cases h
    obtain ⟨hloads, hrs⟩ := ih hothers
    have hloads : ∀ x ∈ others, x.1 ∈ r :: rs ∧ (Loader.load ⟨s.resolver, c.world⟩ x.1).value = .ok x.2 :=
      fun x hx => (hloads x hx).imp_left (List.mem_cons_of_mem r)
    rcases declared_ok hfirst with ⟨ps, rfl, hl⟩ | ⟨rfl, hd, e, hl, he⟩
    · refine ⟨List.forall_mem_cons.mpr ⟨⟨List.mem_cons_self, hl⟩, hloads⟩, List.forall_mem_cons.mpr ⟨?_, ?_⟩⟩
      · exact .inl List.mem_cons_self
      · exact fun q hq => (hrs q hq).imp_left (List.mem_cons_of_mem r)
    · exact ⟨hloads, List.forall_mem_cons.mpr ⟨.inr ⟨hd, e, hl, he⟩, hrs⟩⟩

theorem builtFrom_reload (h : (s.reload c).value = .ok t) :
    ∃ documents, (s.declaredAll c (s.resources.filter Resource.isReloadable)).value = .ok documents ∧
      t.resolver = s.resolver ∧ BuiltFrom c documents { t with resources := documents.map Prod.fst } := by
  obtain ⟨documents, u, hd, hl, rfl⟩ := reload_ok h
  have hc : Reflects u (statementsOf c.deprecations documents) := hl.reflects rfl rfl
  have hr : u.resolver = s.resolver := hl.resolver
  obtain ⟨hloads, -⟩ := declaredAll_ok hd
  refine ⟨documents, hd, hr, rfl, fun x hx => ?_, fun x hx => ?_, hc.isFinal, fun name => ?_⟩
  · exact (List.mem_filter.mp (hloads x hx).1).2
  · exact hr ▸ (hloads x hx).2
  · change (u.entries.insertAll u.overlay.entries).get? name = _
    rw [Table.get?_insertAll, hc.get?_entries]

/-- Of the documents that a new store loads by itself, those that are lacking are passed over, and no others: neither
then, nor when any store is built anew. -/
theorem defaults_left_out_iff {c : Context} (h : (ofDefaults resolver c names).value = .ok s) :
    (∃ documents, BuiltFrom c documents s ∧ ∀ name ∈ names,
      (.ofName name true ∈ documents.map Prod.fst ↔ ¬ Loader.Lacking ⟨resolver, c.world⟩ (Text.trim name))) ∧
    ∀ (u v : Store) c', (u.reload c').value = .ok v → v.resources = u.resources ∧
      ∃ documents, BuiltFrom c' documents { v with resources := documents.map Prod.fst } ∧
        ∀ r ∈ u.resources, r.isReloadable = true → (r ∈ documents.map Prod.fst ↔
          ∀ name, r = .named name true → ¬ Loader.Lacking ⟨u.resolver, c'.world⟩ name) := by
  constructor
  · have hd : HasDefaults c resolver names s := (hasDefaults_empty c resolver).addAll h
    obtain ⟨documents, hb⟩ := hd.isBuilt
    refine ⟨documents, hb, fun name hn => ?_⟩
    rw [← hb.resources, ← hd.searches]
    exact ⟨hb.not_lacking, (hd.searches ▸ hd.added name hn).resolve_right⟩
  · intro u v c' h
    obtain ⟨documents, hd, hr, hb⟩ := builtFrom_reload h
    obtain ⟨-, hrs⟩ := declaredAll_ok hd
    refine ⟨resources_reload h, documents, hb, fun r hm hreload => ⟨?_, fun hn => ?_⟩⟩
    · rintro hm name rfl
      exact hr ▸ hb.not_lacking hm
    · refine (hrs r (List.mem_filter.mpr ⟨hm, hreload⟩)).resolve_right ?_
      rintro ⟨hdefault, e, hl, he⟩
      cases r with
      | named name isDefault =>
        obtain rfl : isDefault = true := hdefault
        exact hn name rfl (Loader.lacking_of_load hl he)
      | file p => cases hdefault
      | uri uri scheme => cases hdefault
      | stream stream name => cases hdefault

/-- A directory with a document that includes one which is not there, an empty one, and one that may not be read. -/
def incomplete : World :=
  let document (text : String) (mode : Nat) : FileNode := .file (Utf8.encode text.toList) mode
  ⟨⟨Path.parse "/", [(["a.xml"], document (Loader.includingText "x.xml") FileTree.standardMode),
    (["b.xml"], document "<configuration/>" FileTree.standardMode), (["d.xml"], document "<configuration/>" 0)]⟩, ∅, ∅, 0⟩

theorem defaults_left_out_incomplete :
    let resolver : Resolver := .search [Path.parse "/"]
    let names := ["a.xml", "b.xml", "c.xml", "d.xml"]
    ∃ s, (ofDefaults resolver ⟨.empty, incomplete⟩ names).value = .ok s ∧ s.resources = [.ofName "b.xml" true] ∧
      (∀ name ∈ ["a.xml", "c.xml", "d.xml"], Loader.Lacking ⟨resolver, incomplete⟩ name) ∧
      ¬ Loader.Lacking ⟨resolver, incomplete⟩ "b.xml" := by
  intro resolver names
  obtain ⟨s, hs, hr⟩ : ∃ s, (ofDefaults resolver ⟨.empty, incomplete⟩ names).value.toOption = some s ∧
      s.resources = [.ofName "b.xml" true] := Option.map_eq_some_iff.mp (by decide +kernel)
  have hs := Traced.eq_ok_of_toOption hs
  obtain ⟨⟨documents, hb, hnames⟩, -⟩ := defaults_left_out_iff hs
  rw [← hb.resources, hr] at hnames
  refine ⟨s, hs, hr, fun name hn => Classical.not_not.mp fun hl => ?_, (hnames "b.xml" (by decide)).mp (by decide)⟩
  have hmem : name ∈ names ∧ Text.trim name = name ∧ Resource.ofName name true ∉ [.ofName "b.xml" true] :=
    (by decide +kernel : ∀ name ∈ ["a.xml", "c.xml", "d.xml"], name ∈ names ∧ Text.trim name = name ∧
      Resource.ofName name true ∉ [.ofName "b.xml" true]) name hn
  exact hmem.2.2 ((hnames name hmem.1).mpr (hmem.2.1.symm ▸ hl))

/-- A document that is found is not among those of a new store when it includes one that is not there. -/
theorem incomplete_default_is_left_out :
    let resolver : Resolver := .search [Path.parse "/"]
    resolver.findResource incomplete.files "a.xml" = .ok (some (Path.parse "/a.xml")) ∧
      ∃ s, (ofDefaults resolver ⟨.empty, incomplete⟩ ["a.xml"]).value = .ok s ∧ s.resources = [] := by
  intro resolver
  exact ⟨Traced.eq_ok_of_toOption (by decide +kernel), empty resolver, Traced.eq_ok_of_toOption (by decide +kernel), rfl⟩

end Store
end ConfigLayers
