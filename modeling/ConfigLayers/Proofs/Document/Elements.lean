import ConfigLayers.Proofs.Document.Walk
import ConfigLayers.Proofs.Text.Blank

/-! Which elements of a document and of those included in it declare its properties. A walk declares what these
elements declare, each of them once and in their order, and nothing else. -/
namespace ConfigLayers

namespace Declared

def IsNamed (p : Declared) : Prop :=
  p.name ≠ "" ∧ Text.trim p.name = p.name

/-- A property with a name, no text of which is changed by trimming. -/
structure IsTrimmed (p : Declared) : Prop where
  isNamed : p.IsNamed
  value : ∀ value ∈ p.value, Text.trim value = value
  sources : ∀ source ∈ p.sources, Text.trim source = source

theorem trim_of_mem_sources {ns : List Xml.Node} {f : Fields} (hf : ∀ source ∈ f.sources, Text.trim source = source) :
    ∀ source ∈ (ns.foldl Fields.read f).sources, Text.trim source = source := by
  induction ns generalizing f with
  | nil => exact hf
  | cons n ns ih =>
    refine ih fun source hs => ?_
    cases n with
    | text t => exact hf source hs
    | element name attributes content =>
      simp only [Fields.read] at hs
      split at hs
      · exact hf source hs
      · split at hs
        · exact hf source hs
        · split at hs
          · exact hf source hs
          · split at hs
            · rcases List.mem_append.mp hs with hs | hs
              · exact hf source hs
              · rw [List.mem_singleton.mp hs, Text.trim_trim]
            · exact hf source hs

theorem isTrimmed_of_ofElement? {attributes : List (Xml.Name × String)} {content : List Xml.Node} {p : Declared}
    (h : ofElement? attributes content = some p) : p.IsTrimmed := by
  have hs : ∀ source ∈ (content.foldl Fields.read (ofAttributes attributes)).sources, Text.trim source = source :=
    trim_of_mem_sources fun source hm => (List.not_mem_nil hm).elim
  rw [ofElement?] at h
  generalize content.foldl Fields.read (ofAttributes attributes) = f at h hs
  unfold ofFields? at h
  split at h
  · cases h
  · cases h
  · rename_i name hne hn
    cases h
    obtain ⟨given, -, rfl⟩ := Option.map_eq_some_iff.mp hn
    refine ⟨⟨hne, Text.trim_trim given⟩, fun value hv => ?_, hs⟩
    obtain ⟨value, -, rfl⟩ := Option.map_eq_some_iff.mp hv
    exact Text.trim_trim value

end Declared

namespace Loader

/-- A property as it stands in a document, with its attributes and what is in it. -/
structure PropertyElement where
  attributes : List (Xml.Name × String)
  content : List Xml.Node

def PropertyElement.declared? (e : PropertyElement) : Option Declared :=
  Declared.ofElement? e.attributes e.content

theorem PropertyElement.filterMap_singleton (e : PropertyElement) :
    [e].filterMap declared? = e.declared?.toList := by
  rw [List.filterMap_cons]
  cases e.declared? <;> rfl

/-- The property elements of some content and of the documents included in it, in the order in which they
stand there when every nested configuration is replaced by its content, every inclusion of a document by the
content of its root, and every other inclusion by the content of its first fallback. -/
inductive Elements (s : Surroundings) : Option String → List Xml.Node → List PropertyElement → Prop where
  | nil (base : Option String) : Elements s base [] []
  | append {base : Option String} {xs ys : List Xml.Node} {es fs : List PropertyElement} :
      Elements s base xs es → Elements s base ys fs → Elements s base (xs ++ ys) (es ++ fs)
  | passed (base : Option String) {n : Xml.Node} : isPassed n = true → Elements s base [n] []
  | property (base : Option String) {name : Xml.Name} (attributes : List (Xml.Name × String))
      (content : List Xml.Node) : roleOf name = .property →
        Elements s base [.element name attributes content] [⟨attributes, content⟩]
  | configuration {base : Option String} {name : Xml.Name} (attributes : List (Xml.Name × String))
      {content : List Xml.Node} {es : List PropertyElement} : roleOf name = .configuration →
        Elements s base content es → Elements s base [.element name attributes content] es
  | included {base : Option String} {name root : Xml.Name} {attributes rootAttributes : List (Xml.Name × String)}
      (content : List Xml.Node) {included : List Xml.Node} {fetched : Fetched} {es : List PropertyElement} :
      roleOf name = .inclusion →
      meant s base (targetOf attributes) = .ok (some (fetched, .element root rootAttributes included)) →
        Elements s fetched.base included es → Elements s base [.element name attributes content] es
  | fallback {base : Option String} {name : Xml.Name} {attributes : List (Xml.Name × String)}
      {content instead : List Xml.Node} {es : List PropertyElement} :
      roleOf name = .inclusion → meant s base (targetOf attributes) = .ok none →
      firstFallback? content = some instead →
        Elements s base instead es → Elements s base [.element name attributes content] es

variable {s : Surroundings} {nested inner : Walker} {base : Option String}

theorem Elements.walk {ns : List Xml.Node} {es : List PropertyElement} (h : Elements s base ns es) :
    Walk s base ns (.ok (es.filterMap PropertyElement.declared?)) := by
  induction h with
  | nil => exact .nil
  | append _ _ ihx ihy =>
    rw [List.filterMap_append]
    exact ihx.append ihy
  | passed _ hn => exact .passed hn
  | property _ attributes content hr =>
    rw [PropertyElement.filterMap_singleton]
    exact .property hr
  | configuration _ hr _ ih => exact (Walk.configuration_iff hr).mpr ih
  | included _ hr hm _ ih => exact (Walk.included_iff hr hm).mpr ih
  | fallback hr hm hf _ ih => exact (Walk.fallback_iff hr hm hf).mpr ih

def Found (s : Surroundings) (base : Option String) (ns : List Xml.Node) (x : Walked) : Prop :=
  ∀ ps, x = .ok ps → ∃ es, Elements s base ns es ∧ ps = es.filterMap PropertyElement.declared?

theorem found_loadNode (hn : ∀ base content, Found s base content (nested base content).value)
    (hi : ∀ base content, Found s base content (inner base content).value) (base : Option String) (n : Xml.Node) :
    Found s base [n] (loadNode s nested inner base n).value := by
  intro ps hp
  obtain ⟨t, ht⟩ := exists_turn s base n
  rw [ht.value_loadNode] at hp
  cases ht with
  | passed hpassed =>
    cases hp
    exact ⟨[], .passed base hpassed, rfl⟩
  | property attributes content hr =>
    cases hp
    refine ⟨[⟨attributes, content⟩], .property base attributes content hr, ?_⟩
    rw [PropertyElement.filterMap_singleton]
    rfl
  | configuration attributes content hr =>
    obtain ⟨es, he, rfl⟩ := hn base content ps hp
    exact ⟨es, .configuration attributes hr he, rfl⟩
  | included content hr hm =>
    obtain ⟨es, he, rfl⟩ := hi _ _ ps hp
    exact ⟨es, .included content hr hm he, rfl⟩
  | fallback hr hm hf =>
    obtain ⟨es, he, rfl⟩ := hi base _ ps hp
    exact ⟨es, .fallback hr hm hf he, rfl⟩
  | fails => cases hp

theorem found_loadNodes (hn : ∀ base content, Found s base content (nested base content).value)
    (hi : ∀ base content, Found s base content (inner base content).value) (base : Option String)
    (ns : List Xml.Node) : Found s base ns (loadNodes s nested inner base ns).value := by
  induction ns with
  | nil =>
    rintro ps hp
    cases hp
    exact ⟨[], .nil base, rfl⟩
  | cons n rest ih =>
    intro ps hp
    rw [value_loadNodes_cons] at hp
    obtain ⟨qs, rs, hfirst, hrest, rfl⟩ := chain_eq_ok_iff.mp hp
    obtain ⟨es, he, rfl⟩ := found_loadNode hn hi base n qs hfirst
    obtain ⟨fs, hf, rfl⟩ := ih rs hrest
    exact ⟨es ++ fs, .append he hf, List.filterMap_append.symm⟩

theorem found_loadContent (s : Surroundings) (calls : Nat) (base : Option String) (ns : List Xml.Node) :
    Found s base ns (loadContent s calls base ns).value := by
  induction calls using loadContent.induct generalizing base ns with
  | case1 =>
    rintro ps hp
    cases hp
  | case2 ih => exact found_loadNodes ih ih base ns
  | case3 calls ihn ihi => exact found_loadNodes ihn ihi base ns

theorem walk_ok_iff {ns : List Xml.Node} {ps : List Declared} :
    Walk s base ns (.ok ps) ↔ ∃ es, Elements s base ns es ∧ ps = es.filterMap PropertyElement.declared? := by
  constructor
  · rintro ⟨-, calls, h⟩
    exact found_loadContent s calls base ns ps h
  · rintro ⟨es, he, rfl⟩
    exact he.walk

theorem isTrimmed_of_load {r : Resource} {ps : List Declared} (h : (load s r).value = .ok ps) {p : Declared}
    (hp : p ∈ ps) : p.IsTrimmed := by
  obtain ⟨fetched, attributes, ns, -, -, hw⟩ := value_load_eq_ok h
  obtain ⟨es, -, rfl⟩ := walk_ok_iff.mp hw
  obtain ⟨e, -, he⟩ := List.mem_filterMap.mp hp
  exact Declared.isTrimmed_of_ofElement? he

end Loader
end ConfigLayers
