import ConfigLayers.Proofs.Store.Operations

/-! Loading all documents of a store anew gives what was there before. A document that is added wins over
the earlier ones where no name is final, and the overlay wins over all of them; a rebuilt store is laid the
same way, from the documents that the store remembers. -/
namespace ConfigLayers
namespace Store

/-- A value that is set, or a document that can be loaded again. -/
inductive Change where
  | write (w : Setter)
  | add (r : Resource) (reloadable : r.isReloadable = true)

namespace Change

def operation : Change → Operation
  | write w => .write w
  | add r _ => .add r

/-- Changes as operations in surroundings that differ only in the names that have been warned about. -/
def steps (c : Context) (changes : List (List String × Change)) : List (Context × Operation) :=
  changes.map fun x => ({ c with deprecations := { c.deprecations with warned := x.1 } }, x.2.operation)

end Change

/-- The statements of documents in order. -/
def statementsOf (d : Deprecations) (documents : List (Resource × List Declared)) : List Statement :=
  documents.flatMap fun x => Statement.ofDeclared d (.ofResource x.1) x.2

/-- A store that keeps some documents, and shows them under its overlay. -/
structure BuiltFrom (c : Context) (documents : List (Resource × List Declared)) (s : Store) : Prop where
  resources : s.resources = documents.map Prod.fst
  isReloadable : ∀ x ∈ documents, x.1.isReloadable = true
  loads : ∀ x ∈ documents, (Loader.load ⟨s.resolver, c.world⟩ x.1).value = .ok x.2
  isFinal : ∀ name, s.isFinal name =
    (Statement.counting name (statementsOf c.deprecations documents)).any (·.declared.isFinal)
  get?_entries : ∀ name, s.entries.get? name =
    (s.overlay.get? name).or (Statement.lastWritten? s.allowsNull name (statementsOf c.deprecations documents))

variable {c : Context} {documents : List (Resource × List Declared)} {s : Store}

theorem BuiltFrom.assignAll (h : BuiltFrom c documents s) (e : Entry) (names : List String) :
    BuiltFrom c documents (s.assignAll e names) := by
  have hs := assignAll_eq e s names
  refine ⟨?_, h.isReloadable, ?_, fun name => ?_, fun name => ?_⟩
  · rw [hs]
    exact h.resources
  · rw [hs]
    exact h.loads
  · rw [isFinal_assignAll]
    exact h.isFinal name
  · obtain ⟨he, ho⟩ := get?_assignAll e s names name
    have hn : (s.assignAll e names).allowsNull = s.allowsNull := by rw [hs]
    rw [he, ho, hn]
    split
    · rfl
    · exact h.get?_entries name

theorem BuiltFrom.write (h : BuiltFrom c documents s) (c' : Context) (w : Setter) :
    BuiltFrom c documents (s.after (w.run s c')) := by
  refine after_of h fun t ht => ?_
  rcases Setter.run_ok ht with rfl | ⟨e, names, rfl⟩
  · exact h
  · exact h.assignAll e names

theorem BuiltFrom.added (h : BuiltFrom c documents s) {r : Resource} {ps : List Declared}
    (hr : r.isReloadable = true) (hl : (Loader.load ⟨s.resolver, c.world⟩ r).value = .ok ps) :
    BuiltFrom c (documents ++ [(r, ps)]) (s.added c.deprecations r ps) := by
  have hf := frame_added s c.deprecations r ps
  have hx : statementsOf c.deprecations (documents ++ [(r, ps)]) =
      statementsOf c.deprecations documents ++ Statement.ofDeclared c.deprecations (.ofResource r) ps := by
    simp [statementsOf]
  refine ⟨?_, ?_, ?_, fun name => ?_, fun name => ?_⟩
  · rw [hf.resources, List.map_append, ← h.resources]
    rfl
  · intro x hm
    rcases List.mem_append.mp hm with hm | hm
    · exact h.isReloadable x hm
    · rw [List.mem_singleton.mp hm]
      exact hr
  · intro x hm
    rw [hf.resolver]
    rcases List.mem_append.mp hm with hm | hm
    · exact h.loads x hm
    · rw [List.mem_singleton.mp hm]
      exact hl
  · rw [isFinal_added, h.isFinal, hx]
    simp only [Statement.any_counting, List.any_append]
  · have ho : (s.added c.deprecations r ps).overlay = s.overlay := hf.overlay
    have hn : (s.added c.deprecations r ps).allowsNull = s.allowsNull := hf.allowsNull
    rw [get?_entries_added, ho, hn, hx, Statement.lastWritten?_append, h.isFinal, h.get?_entries]
    split
    · rfl
    · cases Statement.lastWritten? s.allowsNull name (Statement.ofDeclared c.deprecations (.ofResource r) ps) with
      | some e => rfl
      | none => rfl

theorem BuiltFrom.step (h : BuiltFrom c documents s) (warned : List String) (a : Change) :
    ∃ documents', BuiltFrom c documents'
      (s.step ({ c with deprecations := { c.deprecations with warned } }, a.operation)) := by
  cases a with
  | write w => exact ⟨documents, h.write _ w⟩
  | add r hr =>
    let c' : Context := { c with deprecations := { c.deprecations with warned } }
    change ∃ documents', BuiltFrom c documents' (s.after (s.addResource c' r))
    rw [after_addResource]
    split
    · exact ⟨documents, h⟩
    · split
      · rename_i ps hl
        exact ⟨documents ++ [(r, ps)], h.added hr hl⟩
      · exact ⟨documents, h⟩

theorem BuiltFrom.run (h : BuiltFrom c documents s) (changes : List (List String × Change)) :
    ∃ documents', BuiltFrom c documents' (s.run (Change.steps c changes)) := by
  induction changes generalizing documents s with
  | nil => exact ⟨documents, h⟩
  | cons x changes ih =>
    obtain ⟨documents', h'⟩ := h.step x.1 x.2
    exact ih h'

theorem value_declaredAll (hl : ∀ x ∈ documents, (Loader.load ⟨s.resolver, c.world⟩ x.1).value = .ok x.2) :
    (s.declaredAll c (documents.map Prod.fst)).value = .ok documents := by
  induction documents with
  | nil => rfl
  | cons x documents ih =>
    obtain ⟨r, ps⟩ := x
    have hv : (s.declared c r).value = .ok (some ps) := by
      rw [value_declared, hl (r, ps) List.mem_cons_self]
    have ht := ih fun x hx => hl x (List.mem_cons_of_mem _ hx)
    rw [List.map_cons, declaredAll, Traced.value_bind_ok _ hv, Traced.value_bind_ok _ ht]
    rfl

theorem LaidOver.layerAll {start : Store} {before : List Statement} (h : LaidOver start before s) (d : Deprecations)
    (documents : List (Resource × List Declared)) :
    ∃ t, (layerAll d s documents).value = .ok t ∧ LaidOver start (before ++ statementsOf d documents) t := by
  induction documents generalizing s before with
  | nil =>
    refine ⟨s, rfl, ?_⟩
    rw [statementsOf, List.flatMap_nil, List.append_nil]
    exact h
  | cons x documents ih =>
    obtain ⟨r, ps⟩ := x
    obtain ⟨t, ht, hl⟩ := ih (h.placeAll s.resources (Statement.ofDeclared d (.ofResource r) ps))
    refine ⟨t, ?_, ?_⟩
    · rw [Store.layerAll, Traced.value_bind_ok _ (value_applyDeclared s d (.ofResource r) ps)]
      exact ht
    · rw [List.append_assoc] at hl
      exact hl

theorem reload_ok {t : Store} (h : (s.reload c).value = .ok t) :
    ∃ documents u, (s.declaredAll c (s.resources.filter Resource.isReloadable)).value = .ok documents ∧
      LaidOver s.withoutLayers (statementsOf c.deprecations documents) u ∧
      t = { u with entries := u.entries.insertAll u.overlay.entries } := by
  obtain ⟨documents, hd, h⟩ := Traced.value_bind_eq_ok_iff.mp h
  obtain ⟨u, hu, hl⟩ := (LaidOver.refl s.withoutLayers).layerAll c.deprecations documents
  rw [Traced.value_bind_ok _ hu] at h
  exact ⟨documents, u, hd, hl, (Except.ok.inj h).symm⟩

theorem BuiltFrom.reload (h : BuiltFrom c documents s) :
    ∃ t, (s.reload c).value = .ok t ∧
      ∀ name, t.entries.get? name = s.entries.get? name ∧ t.isFinal name = s.isFinal name := by
  have hr : s.resources.filter Resource.isReloadable = documents.map Prod.fst := by
    rw [h.resources]
    refine List.filter_eq_self.mpr fun r hm => ?_
    obtain ⟨x, hx, rfl⟩ := List.mem_map.mp hm
    exact h.isReloadable x hx
  obtain ⟨u, hu, hl⟩ := (LaidOver.refl s.withoutLayers).layerAll c.deprecations documents
  have hc : Reflects u (statementsOf c.deprecations documents) := hl.reflects rfl rfl
  have hn : u.allowsNull = s.allowsNull := hl.allowsNull
  have ho : u.overlay = s.overlay := hl.overlay
  refine ⟨{ u with entries := u.entries.insertAll u.overlay.entries }, ?_, fun name => ⟨?_, ?_⟩⟩
  · rw [Store.reload, hr, Traced.value_bind_ok _ (value_declaredAll h.loads), Traced.value_bind_ok _ hu]
    rfl
  · change (u.entries.insertAll u.overlay.entries).get? name = _
    rw [Table.get?_insertAll, ho, hc.get?_entries, hn, h.get?_entries]
  · exact (hc.isFinal name).trans (h.isFinal name).symm

/-- After values have been set and documents added, in any order and with or without success, a reload
succeeds and leaves every name as it is. -/
theorem reload_after_changes (resolver : Resolver) (nulls isQuiet : Bool) (c : Context)
    (changes : List (List String × Change)) :
    let s := ({ empty resolver with allowsNull := nulls, isQuiet } : Store).run (Change.steps c changes)
    ∃ t, (s.reload c).value = .ok t ∧
      ∀ name, t.entries.get? name = s.entries.get? name ∧ t.isFinal name = s.isFinal name := by
  intro s
  have h₀ : BuiltFrom c [] { empty resolver with allowsNull := nulls, isQuiet } :=
    ⟨rfl, fun _ hx => (List.not_mem_nil hx).elim, fun _ hx => (List.not_mem_nil hx).elim, fun _ => rfl, fun _ => rfl⟩
  obtain ⟨documents, h⟩ := h₀.run changes
  exact h.reload

end Store
end ConfigLayers
