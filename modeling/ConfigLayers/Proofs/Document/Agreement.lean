import ConfigLayers.Proofs.Document.Ending

/-! Including a document agrees with loading it. Either finds it in the same file and walks over the same content. But
the root of an included document may have any name, and to include it takes two calls around those that the walk over
its content takes. -/
namespace ConfigLayers
namespace Loader

variable {s : Surroundings} {outer : Resource} {base : Option String} {target : String}

/-- A document in which there is, beside text, only an inclusion of a target, with no fallback. -/
def IncludesOnly (s : Surroundings) (outer : Resource) (base : Option String) (target : String) : Prop :=
  ∃ before name attributes content after,
    Holds s outer base (before ++ .element name attributes content :: after) ∧
      (∀ n ∈ before ++ after, ∃ t, n = .text t) ∧ roleOf name = .inclusion ∧ targetOf attributes = target ∧
      firstFallback? content = none

theorem value_loadContent_of_texts {ns : List Xml.Node} (h : ∀ n ∈ ns, ∃ t, n = .text t) (calls : Nat) :
    (loadContent s (calls + 1) base ns).value = .ok [] := by
  rw [loadContent_succ]
  induction ns with
  | nil => rfl
  | cons n rest ih =>
    obtain ⟨⟨t, rfl⟩, hrest⟩ := List.forall_mem_cons.mp h
    rw [value_loadNodes_cons, ih hrest]
    rfl

/-- What an absolute path means is the document in that file. -/
theorem meant_of_absolute (ha : (Path.parse target).isAbsolute = true) :
    meant s base target = match (Resource.ofPath s.world.files.home target).fetch s.resolver s.world with
      | .ok fetched =>
        (tree s (Resource.ofPath s.world.files.home target).sourceName fetched).map fun root => some (fetched, root)
      | .error e => if e.kind == .resourceUnavailable then .ok none else .error e := by
  have ht : target ≠ "" := by
    rintro rfl
    cases ha
  rw [meant, if_neg ht, candidates_of_absolute _ ha]
  dsimp only [firstFetched]
  cases (Resource.ofPath s.world.files.home target).fetch s.resolver s.world with
  | ok fetched => rfl
  | error e =>
    dsimp only
    cases e.kind == .resourceUnavailable <;> rfl

namespace IncludesOnly

/-- Loading a document with only an inclusion is making that inclusion. -/
theorem value_loadWithin (h : IncludesOnly s outer base target) (room : Nat) :
    (loadWithin s room outer).value = match meant s base target with
      | .error e => .error e
      | .ok none => .error (.includeUnavailable target base)
      | .ok (some (fetched, .element _ _ ns)) => (loadContent s (room - 1) fetched.base ns).value
      | .ok (some (_, .text _)) => .ok [] := by
  obtain ⟨before, name, attributes, content, after, hh, htext, hr, rfl, hf⟩ := h
  obtain ⟨hbefore, hafter⟩ := List.forall_mem_append.mp htext
  rw [hh.value_loadWithin, ← List.singleton_append, value_loadContent_append, value_loadContent_append,
    value_loadContent_of_texts hbefore, value_loadContent_of_texts hafter, chain_nil, nil_chain,
    value_loadContent_singleton, value_inclusion hr]
  rcases meant s base (targetOf attributes) with e | _ | ⟨fetched, t | ⟨name, attributes, ns⟩⟩
  · rfl
  · rw [hf]
  · rfl
  · rfl

variable (h : IncludesOnly s outer base target) (ha : (Path.parse target).isAbsolute = true) {fetched : Fetched}
  {e : Error}
include h ha

theorem value_loadWithin_of_unfetched
    (hf : (Resource.ofPath s.world.files.home target).fetch s.resolver s.world = .error e) (room : Nat) :
    ∃ e', (loadWithin s room outer).value = .error e' ∧ e'.kind = e.kind := by
  rw [h.value_loadWithin, meant_of_absolute ha, hf]
  dsimp only
  by_cases hk : e.kind = .resourceUnavailable
  · rw [if_pos (beq_iff_eq.mpr hk)]
    exact ⟨_, rfl, hk.symm⟩
  · rw [if_neg fun hn => hk (beq_iff_eq.mp hn)]
    exact ⟨e, rfl, rfl⟩

theorem value_loadWithin_of_malformed
    (hf : (Resource.ofPath s.world.files.home target).fetch s.resolver s.world = .ok fetched)
    (ht : tree s (Resource.ofPath s.world.files.home target).sourceName fetched = .error e) (room : Nat) :
    (loadWithin s room outer).value = .error e := by
  rw [h.value_loadWithin, meant_of_absolute ha, hf]
  dsimp only
  rw [ht]
  rfl

theorem value_loadWithin_of_included {root : Xml.Name} {attributes : List (Xml.Name × String)} {ns : List Xml.Node}
    (hf : (Resource.ofPath s.world.files.home target).fetch s.resolver s.world = .ok fetched)
    (ht : tree s (Resource.ofPath s.world.files.home target).sourceName fetched = .ok (.element root attributes ns))
    (room : Nat) : (loadWithin s room outer).value = (loadContent s (room - 1) fetched.base ns).value := by
  rw [h.value_loadWithin, meant_of_absolute ha, hf]
  dsimp only
  rw [ht]
  rfl

/-- A document that cannot be fetched or parsed fails alike in either way, whatever the room. -/
theorem kind_eq_of_rootless
    (hn : ∀ fetched root, (Resource.ofPath s.world.files.home target).fetch s.resolver s.world = .ok fetched →
      tree s (Resource.ofPath s.world.files.home target).sourceName fetched ≠ .ok root) (room room' : Nat) :
    (loadWithin s room outer).value.mapError Error.kind =
      (loadWithin s room' (Resource.ofPath s.world.files.home target)).value.mapError Error.kind := by
  cases hf : (Resource.ofPath s.world.files.home target).fetch s.resolver s.world with
  | error e =>
    obtain ⟨e', he, hk⟩ := h.value_loadWithin_of_unfetched ha hf room
    rw [he, Loader.value_loadWithin_of_unfetched hf]
    exact congrArg Except.error hk
  | ok fetched =>
    cases ht : tree s (Resource.ofPath s.world.files.home target).sourceName fetched with
    | error e => rw [h.value_loadWithin_of_malformed ha hf ht, Loader.value_loadWithin_of_malformed hf ht]
    | ok root => exact (hn fetched root hf ht).elim

end IncludesOnly

theorem exists_value_loadContent_eq (s : Surroundings) (base : Option String) (ns : List Xml.Node) :
    ∃ least, ∀ calls calls', least ≤ calls → least ≤ calls' →
      (loadContent s calls base ns).value = (loadContent s calls' base ns).value := by
  by_cases h : ∃ x, Walk s base ns x
  · obtain ⟨x, hw⟩ := h
    obtain ⟨least, hl⟩ := hw.eventually
    exact ⟨least, fun calls calls' hc hc' => (hl calls hc).trans (hl calls' hc').symm⟩
  · have hdeep : ∀ calls, (loadContent s calls base ns).value = .error .nestingTooDeep :=
      fun calls => Classical.byContradiction fun hn => h ⟨_, .of_loadContent rfl hn⟩
    exact ⟨0, fun calls calls' _ _ => (hdeep calls).trans (hdeep calls').symm⟩

/-- A document that only includes another one by an absolute path is loaded as that one is, with the same properties or
an error of the same kind, if the root of the other is a configuration and there is room for two more calls; so it is
wherever there is room enough. Any other root does not matter to the inclusion, but to loading. -/
theorem inclusion_agrees_with_loading (h : IncludesOnly s outer base target)
    (ha : (Path.parse target).isAbsolute = true) :
    let direct := Resource.ofPath s.world.files.home target
    ((∀ fetched root attributes ns, direct.fetch s.resolver s.world = .ok fetched →
        tree s direct.sourceName fetched = .ok (.element root attributes ns) →
        root = Xml.Name.plain "configuration") →
      (∀ room, (loadWithin s (room + 2) outer).value.mapError Error.kind =
        (loadWithin s room direct).value.mapError Error.kind) ∧
      ∃ least, ∀ room, least ≤ room →
        (loadWithin s room outer).value.mapError Error.kind = (loadWithin s room direct).value.mapError Error.kind) ∧
    ∀ fetched root attributes ns, direct.fetch s.resolver s.world = .ok fetched →
      tree s direct.sourceName fetched = .ok (.element root attributes ns) →
      ∀ room, (loadWithin s room outer).value = (loadContent s (room - 1) fetched.base ns).value ∧
        (root = Xml.Name.plain "configuration" →
          (loadWithin s (room + 2) outer).value = (loadWithin s room direct).value ∧
          ((loadWithin s room outer).value = (loadWithin s room direct).value ∨
            (loadWithin s room outer).value = .error .nestingTooDeep)) ∧
        (root ≠ Xml.Name.plain "configuration" →
          (loadWithin s room direct).value = .error (.wrongRoot direct.sourceName root.text)) := by
  intro direct
  refine ⟨fun hroot => ?_, fun fetched root attributes ns hf ht room => ?_⟩
  · by_cases hn : ∃ fetched root, direct.fetch s.resolver s.world = .ok fetched ∧
        tree s direct.sourceName fetched = .ok root
    · obtain ⟨fetched, root, hf, ht⟩ := hn
      obtain ⟨root, attributes, ns, rfl⟩ := exists_root_of_tree ht
      obtain rfl := hroot fetched root attributes ns hf ht
      refine ⟨fun room => ?_, ?_⟩
      · rw [h.value_loadWithin_of_included ha hf ht, value_loadWithin hf ht]
        rfl
      · obtain ⟨least, hl⟩ := exists_value_loadContent_eq s fetched.base ns
        refine ⟨least + 1, fun room hroom => ?_⟩
        rw [h.value_loadWithin_of_included ha hf ht, value_loadWithin hf ht, hl (room - 1) (room + 1)]
        · omega
        · omega
    · have hk := h.kind_eq_of_rootless ha fun fetched root hf ht => hn ⟨fetched, root, hf, ht⟩
      exact ⟨fun room => hk (room + 2) room, 0, fun room _ => hk room room⟩
  · have ho := h.value_loadWithin_of_included ha hf ht
    refine ⟨ho room, ?_, fun hr => value_loadWithin_of_wrongRoot hf ht hr⟩
    rintro rfl
    rw [ho, ho, value_loadWithin hf ht]
    refine ⟨rfl, (eq_or_ne _ _).symm.imp_left fun hn => ?_⟩
    exact (below_loadContent s (by omega) fetched.base ns hn).symm

def propertyText (root : String) : String :=
  "<" ++ root ++ "><property name='a' value='1'/></" ++ root ++ ">"

/-- A directory with one property in a configuration, and in a document with another root. -/
def otherRoot : Surroundings :=
  let document (root : String) : FileNode := .file (Utf8.encode (propertyText root).toList) FileTree.standardMode
  ⟨.fixed ∅, ⟨⟨Path.parse "/", [(["d.xml"], document "configuration"), (["e.xml"], document "settings")]⟩, ∅, ∅, 2⟩⟩

def onlyProperty : List Xml.Node :=
  [.element (.plain "property") [(.plain "name", "a"), (.plain "value", "1")] []]

theorem includesOnly_includingText {target : String}
    (ht : (tree s "here" ⟨Utf8.encode (includingText target).toList, none, some "utf-8"⟩).toOption =
      some (.element (.plain "configuration") [] (onlyIncluding target)))
    (hs : targetOf [(.plain "href", target)] = target) :
    IncludesOnly s (.stream (.text (includingText target)) "here") none target :=
  ⟨[], _, _, _, [], ⟨_, [], rfl, rfl, Traced.eq_ok_of_toOption ht⟩, by simp, rfl, hs, rfl⟩

/-- A document that includes a configuration with one property is loaded as that is, with room for two more calls. -/
theorem inclusion_agrees_with_loading_property :
    (∀ room, (loadWithin otherRoot (room + 2) (.stream (.text (includingText "/d.xml")) "here")).value.mapError Error.kind =
        (loadWithin otherRoot room (.ofPath (Path.parse "/") "/d.xml")).value.mapError Error.kind) ∧
      (load otherRoot (.stream (.text (includingText "/d.xml")) "here")).value = .ok [⟨"a", some "1", false, []⟩] := by
  have h : IncludesOnly otherRoot (.stream (.text (includingText "/d.xml")) "here") none "/d.xml" :=
    includesOnly_includingText (by decide +kernel) (by decide +kernel)
  have hd : (Resource.ofPath (Path.parse "/") "/d.xml").fetch otherRoot.resolver otherRoot.world =
      .ok ⟨Utf8.encode (propertyText "configuration").toList, some "/d.xml", none⟩ :=
    Traced.eq_ok_of_toOption (by decide +kernel)
  have hroot : tree otherRoot (Resource.ofPath (Path.parse "/") "/d.xml").sourceName
      ⟨Utf8.encode (propertyText "configuration").toList, some "/d.xml", none⟩ =
        .ok (.element (.plain "configuration") [] onlyProperty) :=
    Traced.eq_ok_of_toOption (by decide +kernel)
  obtain ⟨hagree, hroots⟩ := inclusion_agrees_with_loading h (by decide +kernel)
  refine ⟨(hagree fun fetched root attributes ns hf ht => ?_).1, (hroots _ _ _ _ hd hroot 2).1.trans ?_⟩
  · cases hd.symm.trans hf
    cases hroot.symm.trans ht
    rfl
  · exact Traced.eq_ok_of_toOption (by decide +kernel)

/-- Including a document with another root than a configuration has its properties; loading it fails. -/
theorem inclusion_overlooks_root :
    IncludesOnly otherRoot (.stream (.text (includingText "/e.xml")) "here") none "/e.xml" ∧
      (load otherRoot (.stream (.text (includingText "/e.xml")) "here")).value = .ok [⟨"a", some "1", false, []⟩] ∧
      (load otherRoot (.ofPath (Path.parse "/") "/e.xml")).value = .error (.wrongRoot "/e.xml" "settings") := by
  have hf : (Resource.ofPath (Path.parse "/") "/e.xml").fetch otherRoot.resolver otherRoot.world =
      .ok ⟨Utf8.encode (propertyText "settings").toList, some "/e.xml", none⟩ :=
    Traced.eq_ok_of_toOption (by decide +kernel)
  have ht : tree otherRoot (Resource.ofPath (Path.parse "/") "/e.xml").sourceName
      ⟨Utf8.encode (propertyText "settings").toList, some "/e.xml", none⟩ =
        .ok (.element (.plain "settings") [] onlyProperty) :=
    Traced.eq_ok_of_toOption (by decide +kernel)
  have h : IncludesOnly otherRoot (.stream (.text (includingText "/e.xml")) "here") none "/e.xml" :=
    includesOnly_includingText (by decide +kernel) (by decide +kernel)
  refine ⟨h, (h.value_loadWithin_of_included (by decide +kernel) hf ht _).trans ?_, ?_⟩
  · exact Traced.eq_ok_of_toOption (by decide +kernel)
  · exact (value_loadWithin_of_wrongRoot hf ht (by decide)).trans (by rfl)

end Loader
end ConfigLayers
