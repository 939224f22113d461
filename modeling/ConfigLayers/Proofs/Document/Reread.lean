import ConfigLayers.Proofs.Document.Walk
import ConfigLayers.Proofs.Text.Blank
import ConfigLayers.Proofs.Xml.Written
import ConfigLayers.Store.Dump

/-! Properties that have been written as a document are loaded from it as they are, but for blanks at the ends
of their texts, and for values without characters, which are no values. -/
namespace ConfigLayers

open Xml (Node)

namespace Declared

def reread? (p : Declared) : Option Declared :=
  if Text.trim p.name = "" then none
  else some ⟨Text.trim p.name, (p.value.filter (· ≠ "")).map Text.trim, p.isFinal, p.sources.map Text.trim⟩

def parts (p : Declared) : List Node :=
  [field "name" (some p.name), field "value" p.value, field "final" (some (if p.isFinal then "true" else "false"))]
    ++ p.sources.map fun source => field "source" (some source)

theorem isTag_property : Xml.Scan.IsTag "property" :=
  Xml.Scan.isTag_of_all rfl (by decide) (by decide)

theorem isTag_configuration : Xml.Scan.IsTag "configuration" :=
  Xml.Scan.isTag_of_all rfl (by decide) (by decide)

theorem plain_field {tag : String} (ht : Xml.Scan.IsTag tag) {text : Option String} (h : text.all Xml.isLegal = true) :
    (field tag text).Plain 1 := by
  cases text with
  | none => exact .lines ht (by simp)
  | some text => exact .data ht h

theorem plain_element {p : Declared} (h : p.isLegal = true) : p.element.Plain 2 := by
  obtain ⟨⟨hn, hv⟩, hs⟩ : (Xml.isLegal p.name = true ∧ p.value.all Xml.isLegal = true)
      ∧ p.sources.all Xml.isLegal = true := by simpa [isLegal] using h
  refine .lines isTag_property fun n hm => ?_
  simp only [List.mem_append, List.mem_cons, List.not_mem_nil, or_false, List.mem_map] at hm
  obtain (rfl | rfl | rfl) | ⟨source, hm, rfl⟩ := hm
  · exact plain_field (Xml.Scan.isTag_of_all rfl (by decide) (by decide)) hn
  · exact plain_field (Xml.Scan.isTag_of_all rfl (by decide) (by decide)) hv
  · exact plain_field (Xml.Scan.isTag_of_all rfl (by decide) (by decide)) (by cases p.isFinal <;> decide)
  · exact plain_field (Xml.Scan.isTag_of_all rfl (by decide) (by decide)) (List.all_eq_true.mp hs source hm)

theorem plain_document {ps : List Declared} (h : ps.all isLegal = true) : (document ps).Plain 3 := by
  refine .lines isTag_configuration fun n hm => ?_
  obtain ⟨p, hp, rfl⟩ := List.mem_map.mp hm
  exact plain_element (List.all_eq_true.mp h p hp)

theorem foldl_read_filter (f : Fields) (ns : List Node) :
    (ns.filter Node.isElement).foldl Fields.read f = ns.foldl Fields.read f := by
  induction ns generalizing f with
  | nil => rfl
  | cons n ns ih =>
    cases n with
    | text t => exact ih f
    | element name attributes content => exact ih _

theorem read_of_same {tag : String} {text : Option String} {n : Node} (h : (field tag text).Same n) (f : Fields) :
    f.read n = f.read (field tag text) := by
  cases text with
  | none =>
    cases h
    rfl
  | some text =>
    cases h with
    | data h => simp [Fields.read, field, h, Node.innerTexts, Node.innerText]
    | lines h =>
      obtain ⟨m, ms, ht, -, -⟩ := List.forall₂_cons_left_iff.mp h
      cases ht

theorem foldl_read_of_same {ns ms : List Node} (hn : ∀ n ∈ ns, ∃ tag text, n = field tag text)
    (h : List.Forall₂ Node.Same ns ms) (f : Fields) : ms.foldl Fields.read f = ns.foldl Fields.read f := by
  induction h generalizing f with
  | nil => rfl
  | @cons n m ns ms hs _ ih =>
    obtain ⟨tag, text, rfl⟩ := hn n (by simp)
    rw [List.foldl_cons, read_of_same hs]
    exact ih (fun n' hm => hn n' (by simp [hm])) _

theorem mem_parts {p : Declared} {n : Node} (h : n ∈ p.parts) : ∃ tag text, n = field tag text := by
  simp only [parts, List.mem_append, List.mem_cons, List.not_mem_nil, or_false, List.mem_map] at h
  obtain (rfl | rfl | rfl) | ⟨source, -, rfl⟩ := h <;> exact ⟨_, _, rfl⟩

theorem foldl_read_sources (f : Fields) (sources : List String) :
    (sources.map fun source => field "source" (some source)).foldl Fields.read f
      = { f with sources := f.sources ++ sources.map Text.trim } := by
  induction sources generalizing f with
  | nil => simp
  | cons source sources ih =>
    have hr : f.read (field "source" (some source)) = { f with sources := f.sources ++ [Text.trim source] } := by
      simp [Fields.read, field, Node.innerTexts, Node.innerText, Xml.Name.plain]
    rw [List.map_cons, List.foldl_cons, hr, ih]
    simp

theorem isTrue_text (b : Bool) : isTrue (if b then "true" else "false") = b := by
  cases b <;> decide +kernel

theorem foldl_read_parts (p : Declared) :
    p.parts.foldl Fields.read (ofAttributes [])
      = ⟨some p.name, p.value.filter (· ≠ ""), p.isFinal, p.sources.map Text.trim⟩ := by
  have hv : ∀ f : Fields, f.read (field "value" p.value) = { f with value := p.value.filter (· ≠ "") } := by
    intro f
    cases p.value with
    | none => rfl
    | some value => by_cases h : value = "" <;>
        simp [Fields.read, field, Node.innerTexts, Node.innerText, Xml.Name.plain, Option.filter, h]
  have hf : ∀ f : Fields, f.read (field "final" (some (if p.isFinal then "true" else "false")))
      = { f with isFinal := p.isFinal } := by
    intro f
    simp [Fields.read, field, Node.innerTexts, Node.innerText, Xml.Name.plain, isTrue_text]
  rw [parts, List.foldl_append, foldl_read_sources, List.foldl_cons, List.foldl_cons, List.foldl_cons, hv, hf]
  simp [Fields.read, field, Node.innerTexts, Node.innerText, Xml.Name.plain, ofAttributes]

theorem ofFields?_eq (name : String) (value : Option String) (isFinal : Bool) (sources : List String) :
    ofFields? ⟨some name, value, isFinal, sources⟩ =
      if Text.trim name = "" then none else some ⟨Text.trim name, value.map Text.trim, isFinal, sources⟩ := by
  by_cases h : Text.trim name = "" <;> simp [ofFields?, h]

theorem ofElement?_of_same {p : Declared} {n : Node} (h : p.element.Same n) :
    ∃ ns, n = .element (Xml.Name.plain "property") [] ns ∧ ofElement? [] ns = p.reread? := by
  have he : p.parts.all Node.isElement = true := List.all_eq_true.mpr fun n hn => by
    obtain ⟨tag, text, rfl⟩ := mem_parts hn
    rfl
  obtain ⟨ns, rfl, hs⟩ := Node.Same.elements h he
  refine ⟨ns, rfl, ?_⟩
  rw [ofElement?, ← foldl_read_filter, foldl_read_of_same (fun _ => mem_parts) hs, foldl_read_parts, ofFields?_eq]
  rfl

end Declared

namespace Loader

variable {s : Surroundings} {nested inner : Walker} {base : Option String}

theorem value_loadNodes_filter (ns : List Node) :
    (loadNodes s nested inner base (ns.filter Node.isElement)).value = (loadNodes s nested inner base ns).value := by
  induction ns with
  | nil => rfl
  | cons n ns ih =>
    cases n with
    | text t =>
      have ht : (loadNode s nested inner base (.text t)).value = .ok [] := value_of_isPassed rfl
      rw [List.filter_cons_of_neg (by simp [Node.isElement]), ih, value_loadNodes_cons, ht, nil_chain]
    | element name attributes content =>
      rw [List.filter_cons_of_pos rfl, value_loadNodes_cons, value_loadNodes_cons, ih]

theorem value_loadNodes_of_same {ps : List Declared} {ns : List Node}
    (h : List.Forall₂ Node.Same (ps.map Declared.element) ns) :
    (loadNodes s nested inner base ns).value = .ok (ps.filterMap Declared.reread?) := by
  induction ps generalizing ns with
  | nil =>
    cases h
    rfl
  | cons p ps ih =>
    obtain ⟨n, ms, hn, hr, rfl⟩ := List.forall₂_cons_left_iff.mp h
    obtain ⟨content, rfl, he⟩ := Declared.ofElement?_of_same hn
    have hl : (loadNode s nested inner base (.element (Xml.Name.plain "property") [] content)).value
        = .ok p.reread?.toList := by
      rw [value_property rfl, he]
    rw [value_loadNodes_cons, hl, ih hr, chain_ok, List.filterMap_cons]
    cases p.reread? <;> rfl

theorem value_load_document {ps : List Declared} (h : ps.all Declared.isLegal = true) {r : Resource}
    (hf : r.fetch s.resolver s.world = .ok ⟨Utf8.encode (Declared.document ps).document.toList, base, none⟩) :
    (load s r).value = .ok (ps.filterMap Declared.reread?) := by
  obtain ⟨m, hm, hb⟩ := Xml.ofBytes?_document (Declared.plain_document h) (by decide)
    (Fetched.readEntity s.world.files base) (Fetched.reach s.world.files)
  have he : (ps.map Declared.element).all Node.isElement = true := by
    simp [Declared.element, Node.isElement]
  obtain ⟨ns, rfl, hs⟩ := Node.Same.elements hm he
  have ht : tree s r.sourceName ⟨Utf8.encode (Declared.document ps).document.toList, base, none⟩
      = .ok (.element (Xml.Name.plain "configuration") [] ns) := by
    rw [tree, Fetched.tree?]
    simp only [Option.isSome_none, hb]
  rw [load, value_loadWithin hf ht, loadContent_succ, ← value_loadNodes_filter, value_loadNodes_of_same hs]

end Loader
end ConfigLayers
