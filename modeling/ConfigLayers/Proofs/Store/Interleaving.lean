import ConfigLayers.Proofs.Store.Rebuild
import ConfigLayers.Proofs.Store.Setting
import ConfigLayers.Proofs.Traced

/-! Setting values and adding documents commute. The overlay depends on what is set alone, final names on the
documents alone, and what a store shows is its overlay over its documents whatever came first. -/
namespace ConfigLayers
namespace Store

namespace Setter

/-- Whether a value is set without looking whether there is one. -/
def isPlain : Setter → Bool
  | ifUnset .. | booleanIfUnset .. => false
  | _ => true

/-- The names that a value is set under. -/
def targets (d : Deprecations) (w : Setter) : List String :=
  (w.given.map fun given => d.targets (Text.trim given)).getD []

theorem isDue_of_isPlain {w : Setter} (h : w.isPlain = true) (s t : Store) (c c' : Context) :
    w.isDue s c = w.isDue t c' := by
  cases w with
  | ifUnset name value => cases h
  | booleanIfUnset name b => cases h
  | type name t base => cases base <;> rfl
  | _ => rfl

theorem entry?_of_isPlain {w : Setter} (h : w.isPlain = true) {s t : Store} {c c' : Context} {name : String}
    (hc : c'.deprecations.targets = c.deprecations.targets) (hn : s.allowsNull = t.allowsNull)
    (hf : name ∈ w.targets c.deprecations → s.isFinal name = t.isFinal name) :
    w.entry? s c' name = w.entry? t c name := by
  unfold entry?
  cases hg : w.given with
  | none => rfl
  | some given =>
    simp only [Option.bind_some, hc, hn, isDue_of_isPlain h s t c' c]
    by_cases hm : name ∈ c.deprecations.targets (Text.trim given)
    · rw [hf (by simpa [targets, hg] using hm)]
    · simp [hm]

end Setter

/-- Values that are set and documents that are added, each in their order, as changes in one order. With each
change come the names that have been warned about by then. -/
inductive Interleaved :
    List Setter → List (Resource × List Declared) → List (List String × Change) → Prop where
  | nil : Interleaved [] [] []
  | write {ws : List Setter} {documents : List (Resource × List Declared)} {xs : List (List String × Change)}
      (warned : List String) (w : Setter) :
      Interleaved ws documents xs → Interleaved (w :: ws) documents ((warned, .write w) :: xs)
  | add {ws : List Setter} {documents : List (Resource × List Declared)} {xs : List (List String × Change)}
      (warned : List String) (r : Resource) (ps : List Declared) (hr : r.isReloadable = true) :
      Interleaved ws documents xs → Interleaved ws ((r, ps) :: documents) ((warned, .add r hr) :: xs)

/-- The entry that setters write last under a name, as they would write it into some store. -/
def lastSet? (start : Store) (c : Context) (name : String) (ws : List Setter) : Option Entry :=
  (ws.filterMap fun w => w.entry? start c name).getLast?

theorem lastSet?_append (start : Store) (c : Context) (name : String) (ws : List Setter) (w : Setter) :
    lastSet? start c name (ws ++ [w]) = (w.entry? start c name).or (lastSet? start c name ws) := by
  rw [lastSet?, List.filterMap_append, List.getLast?_append]
  cases hw : w.entry? start c name <;> simp [hw, lastSet?]

/-- A store that values have been set in and documents added to, in some order. -/
structure Mixes (start : Store) (c : Context) (ws : List Setter) (documents : List (Resource × List Declared))
    (s : Store) : Prop where
  builtFrom : BuiltFrom c documents s
  resolver : s.resolver = start.resolver
  allowsNull : s.allowsNull = start.allowsNull
  get?_overlay : ∀ name, s.overlay.get? name = lastSet? start c name ws

variable {start s : Store} {c : Context} {ws : List Setter} {documents : List (Resource × List Declared)}

theorem Mixes.isFinal_eq_false (h : Mixes start c ws documents s) {name : String}
    (hf : ∀ x ∈ documents, ∀ p ∈ x.2, p.isFinal = true → name ∉ c.deprecations.targets p.name) :
    s.isFinal name = false := by
  rw [h.builtFrom.isFinal, Statement.any_counting, List.any_eq_false]
  intro x hx hn
  obtain ⟨y, hy, hx⟩ := List.mem_flatMap.mp hx
  obtain ⟨p, hp, hx⟩ := List.mem_flatMap.mp hx
  obtain ⟨other, ho, rfl⟩ := List.mem_map.mp hx
  obtain ⟨hn, hfinal⟩ := Bool.and_eq_true_iff.mp hn
  obtain rfl : other = name := of_decide_eq_true hn
  exact hf y hy p hp hfinal ho

/-- A value that is set goes over those that were set before, whatever the documents. -/
theorem Mixes.write (h : Mixes start c ws documents s) (hs : start.finals = []) {w : Setter} (hw : w.isPlain = true)
    (hf : ∀ x ∈ documents, ∀ p ∈ x.2, p.isFinal = true →
      ∀ name ∈ c.deprecations.targets p.name, name ∉ w.targets c.deprecations)
    (c' : Context) (hc : c'.deprecations.targets = c.deprecations.targets) :
    Mixes start c (ws ++ [w]) documents (s.after (w.run s c')) := by
  have he : ∀ name, w.entry? s c' name = w.entry? start c name := by
    refine fun name => Setter.entry?_of_isPlain hw hc h.allowsNull fun hm => ?_
    rw [h.isFinal_eq_false fun x hx p hp hfinal hn => hf x hx p hp hfinal name hn hm, isFinal, hs]
    rfl
  have hu := after_write_eq s c' w
  refine ⟨h.builtFrom.write c' w, ?_, ?_, fun name => ?_⟩
  · rw [hu]
    exact h.resolver
  · rw [hu]
    exact h.allowsNull
  · rw [(get?_after_write s c' w name).2, he, h.get?_overlay, lastSet?_append]

/-- A document that is added goes over those that were added before, whatever was set. -/
theorem Mixes.add (h : Mixes start c ws documents s) {r : Resource} {ps : List Declared} (hr : r.isReloadable = true)
    (hl : (Loader.load ⟨start.resolver, c.world⟩ r).value = .ok ps) (hd : ∀ x ∈ documents, r.same x.1 = false)
    (warned : List String) :
    Mixes start c ws (documents ++ [(r, ps)])
      (s.after (s.addResource { c with deprecations := { c.deprecations with warned } } r)) := by
  have hl : (Loader.load ⟨s.resolver, c.world⟩ r).value = .ok ps := by rw [h.resolver, hl]
  have hh : s.holdsResource r = false := by
    rw [holdsResource, h.builtFrom.resources, List.any_map, List.any_eq_false.mpr, Bool.and_false]
    exact fun x hx => Bool.eq_false_iff.mp (hd x hx)
  have ha : s.after (s.addResource { c with deprecations := { c.deprecations with warned } } r) =
      s.added c.deprecations r ps := by
    rw [after_addResource, hh]
    simp only [Bool.false_eq_true, if_false, hl]
    rfl
  have hf := frame_added s c.deprecations r ps
  rw [ha]
  exact ⟨h.builtFrom.added hr hl, hf.resolver.trans h.resolver, hf.allowsNull.trans h.allowsNull,
    fun name => (congrArg (Table.get? · name) hf.overlay).trans (h.get?_overlay name)⟩

/-- In whatever order values are set and documents added, both keep their own order. -/
theorem Mixes.run {before : List Setter} {known : List (Resource × List Declared)} (h : Mixes start c before known s)
    (hs : start.finals = []) {xs : List (List String × Change)} (hx : Interleaved ws documents xs)
    (hw : ∀ w ∈ ws, w.isPlain = true)
    (hd : (known ++ documents).Pairwise fun x y => y.1.same x.1 = false)
    (hl : ∀ x ∈ documents, (Loader.load ⟨start.resolver, c.world⟩ x.1).value = .ok x.2)
    (hf : ∀ w ∈ ws, ∀ x ∈ known ++ documents, ∀ p ∈ x.2, p.isFinal = true →
      ∀ name ∈ c.deprecations.targets p.name, name ∉ w.targets c.deprecations) :
    Mixes start c (before ++ ws) (known ++ documents) (s.run (Change.steps c xs)) := by
  -- on the interleaving, with what has been set and added until now left open
  induction hx generalizing before known s with
  | nil =>
    rw [List.append_nil, List.append_nil]
    exact h
  | @write ws documents xs warned w _ ih =>
    have hm : ∀ x ∈ known, x ∈ known ++ documents := fun x hx => List.mem_append_left _ hx
    have h' := h.write hs (hw w List.mem_cons_self) (fun x hx => hf w List.mem_cons_self x (hm x hx))
      { c with deprecations := { c.deprecations with warned } } rfl
    have hr := ih h' (fun w hw' => hw w (List.mem_cons_of_mem _ hw')) hd hl
      fun w hw' => hf w (List.mem_cons_of_mem _ hw')
    rw [List.append_assoc] at hr
    exact hr
  | @add ws documents xs warned r ps hr _ ih =>
    rw [List.append_cons] at hd hf ⊢
    have hn : ∀ x ∈ known, r.same x.1 = false := fun x hx =>
      (List.pairwise_append.mp (List.pairwise_append.mp hd).1).2.2 x hx (r, ps) (List.mem_singleton_self _)
    have h' := h.add hr (hl (r, ps) List.mem_cons_self) hn warned
    exact ih h' hw hd (fun x hx => hl x (List.mem_cons_of_mem _ hx)) hf

/-- In whatever order values are set and documents added, to a store without entries, every name has the entry that
was set last, or else the one that the documents give it, and is final where they say so. No document may make a
name final that a value is set under. -/
theorem writes_and_loads_commute (resolver : Resolver) (nulls isQuiet : Bool) (c : Context) {ws : List Setter}
    {documents : List (Resource × List Declared)} (hw : ∀ w ∈ ws, w.isPlain = true)
    (hd : documents.Pairwise fun x y => y.1.same x.1 = false)
    (hl : ∀ x ∈ documents, (Loader.load ⟨resolver, c.world⟩ x.1).value = .ok x.2)
    (hf : ∀ w ∈ ws, ∀ x ∈ documents, ∀ p ∈ x.2, p.isFinal = true →
      ∀ name ∈ c.deprecations.targets p.name, name ∉ w.targets c.deprecations) :
    let start : Store := { empty resolver with allowsNull := nulls, isQuiet }
    (∀ xs, Interleaved ws documents xs → ∀ name,
      (start.run (Change.steps c xs)).entries.get? name = (lastSet? start c name ws).or
          (Statement.lastWritten? nulls name (statementsOf c.deprecations documents)) ∧
        (start.run (Change.steps c xs)).isFinal name =
          (Statement.counting name (statementsOf c.deprecations documents)).any (·.declared.isFinal)) ∧
    ∀ xs ys, Interleaved ws documents xs → Interleaved ws documents ys → ∀ name,
      (start.run (Change.steps c xs)).entries.get? name = (start.run (Change.steps c ys)).entries.get? name ∧
        (start.run (Change.steps c xs)).isFinal name = (start.run (Change.steps c ys)).isFinal name := by
  intro start
  have h₀ : Mixes start c [] [] start :=
    ⟨⟨rfl, fun _ hx => (List.not_mem_nil hx).elim, fun _ hx => (List.not_mem_nil hx).elim, fun _ => rfl, fun _ => rfl⟩,
      rfl, rfl, fun _ => rfl⟩
  have hm : ∀ xs, Interleaved ws documents xs → ∀ name,
      (start.run (Change.steps c xs)).entries.get? name = (lastSet? start c name ws).or
          (Statement.lastWritten? nulls name (statementsOf c.deprecations documents)) ∧
        (start.run (Change.steps c xs)).isFinal name =
          (Statement.counting name (statementsOf c.deprecations documents)).any (·.declared.isFinal) := by
    intro xs hx name
    have h : Mixes start c ws documents (start.run (Change.steps c xs)) := h₀.run rfl hx hw hd hl hf
    refine ⟨?_, h.builtFrom.isFinal name⟩
    rw [h.builtFrom.get?_entries, h.get?_overlay, h.allowsNull]
  refine ⟨hm, fun xs ys hx hy name => ⟨?_, ?_⟩⟩
  · rw [(hm xs hx name).1, (hm ys hy name).1]
  · rw [(hm xs hx name).2, (hm ys hy name).2]

/-- A value that is set before or after a document is added wins over that of the document. -/
theorem writes_and_loads_commute_file :
    let content := Utf8.encode "<configuration><property name='a' value='1'/></configuration>".toList
    let c : Context := ⟨.empty, ⟨⟨Path.parse "/", [(["a.xml"], .file content FileTree.standardMode)]⟩, ∅, ∅, 0⟩⟩
    let w : Setter := .text (some " a ") (some "2") none
    let r : Resource := .file (Path.parse "/a.xml")
    let start : Store := { empty (.fixed ∅) with allowsNull := false, isQuiet := true }
    let first := start.run (Change.steps c [([], .write w), ([], .add r rfl)])
    let last := start.run (Change.steps c [([], .add r rfl), ([], .write w)])
    first.entries.get? "a" = some ⟨some "2", ["programmatically"]⟩ ∧ first.isFinal "a" = false ∧
      ∀ name, first.entries.get? name = last.entries.get? name ∧ first.isFinal name = last.isFinal name := by
  intro content c w r start first last
  let ps : List Declared := [⟨"a", some "1", false, []⟩]
  have hl : (Loader.load ⟨.fixed ∅, c.world⟩ r).value = .ok ps := Traced.eq_ok_of_toOption (by decide +kernel)
  have hw : ∀ v ∈ [w], v.isPlain = true := by simp [w, Setter.isPlain]
  have hl : ∀ x ∈ [(r, ps)], (Loader.load ⟨.fixed ∅, c.world⟩ x.1).value = .ok x.2 := by simpa using hl
  have hf : ∀ v ∈ [w], ∀ x ∈ [(r, ps)], ∀ p ∈ x.2, p.isFinal = true →
      ∀ name ∈ c.deprecations.targets p.name, name ∉ v.targets c.deprecations := by simp [ps]
  have h := writes_and_loads_commute (.fixed ∅) false true c hw (List.pairwise_singleton _ _) hl hf
  have hx : Interleaved [w] [(r, ps)] [([], .write w), ([], .add r rfl)] := .write [] w (.add [] r ps rfl .nil)
  have hy : Interleaved [w] [(r, ps)] [([], .add r rfl), ([], .write w)] := .add [] r ps rfl (.write [] w .nil)
  refine ⟨((h.1 _ hx "a").1).trans ?_, ((h.1 _ hx "a").2).trans ?_, h.2 _ _ hx hy⟩
  · decide
  · decide

end Store
end ConfigLayers
