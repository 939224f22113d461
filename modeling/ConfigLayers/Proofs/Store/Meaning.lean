import ConfigLayers.Proofs.Document.Notices
import ConfigLayers.Proofs.Store.Operations
import ConfigLayers.Proofs.Store.Overrides

/-! What documents laid over one another mean. For each name, the declarations up to the first final one
decide whether it is final, whether it is stored, and with which value and sources; the others only warn. -/
namespace ConfigLayers
namespace Store

/-- A document that comes over a store: one that is loaded, or declarations that have been loaded before. -/
inductive Arrival where
  | added (r : Resource)
  | applied (source : Resource) (ps : List Declared)

namespace Arrival

def operation : Arrival → Operation
  | added r => .add r
  | applied source ps => .apply source ps

def resource? : Arrival → Option Resource
  | added r => some r
  | applied _ _ => none

/-- The statements of a document. One that cannot be loaded makes none. -/
def statements (d : Deprecations) (around : Loader.Surroundings) : Arrival → List Statement
  | added r => match (Loader.load around r).value with
    | .ok ps => Statement.ofDeclared d (.ofResource r) ps
    | .error _ => []
  | applied source ps => Statement.ofDeclared d (.ofResource source) ps

end Arrival

theorem restored_of_overlay {l : Layering} (h : l.store.overlay = ∅) : l.restored = l.store := by
  have hf : ∀ (names : List String) (t : Table Entry), names.foldl (restore ∅) t = t := by
    intro names
    induction names with
    | nil => exact fun _ => rfl
    | cons name names ih => exact fun t => ih t
  rw [restored_eq, h, hf]

variable {start s : Store} {before : List Statement}

theorem notes_declared (c : Context) (r : Resource) : (s.declared c r).Notes (override? · = none) := by
  have hl : (Loader.load ⟨s.resolver, c.world⟩ r).Notes (override? · = none) := by
    intro e he
    obtain ⟨level, text, rfl⟩ := Loader.notes_load _ r e he
    simp [override?]
  refine Traced.notes_bind (Traced.notes_tryCatch ?_ fun e => ?_) fun found _ => ?_
  · exact Traced.notes_bind hl fun _ _ => Traced.notes_pure _
  · split
    · exact Traced.notes_pure _
    · exact Traced.notes_throw _
  · cases found with
    | none => exact Traced.notes_pure _
    | some ps =>
      dsimp only
      split
      · exact Traced.notes_bind (Traced.notes_note rfl) fun _ _ => Traced.notes_pure _
      · exact Traced.notes_pure _

/-- Of adding a document, only the laying over of its declarations gives warnings. -/
theorem overrides_addResource {c : Context} {r : Resource} (hr : s.holdsResource r = false) :
    overrides (s.addResource c r).trace =
      match (Loader.load ⟨s.resolver, c.world⟩ r).value with
      | .ok ps => overrides (layerEvents c.deprecations (.ofResource r)
          ⟨{ s with resources := s.resources ++ [r] }, []⟩ ps)
      | .error _ => [] := by
  have hd : overrides (s.declared c r).trace = [] := overrides_eq_nil (notes_declared c r)
  have hv := value_declared s c r
  unfold addResource
  rw [hr]
  simp only [Bool.false_eq_true, if_false]
  cases hl : (Loader.load ⟨s.resolver, c.world⟩ r).value with
  | ok ps =>
    rw [hl] at hv
    rw [Traced.trace_bind_ok _ hv, overrides_append, hd, List.nil_append]
    rw [Traced.trace_bind_ok _ (value_layer _ _ _ _), Traced.trace_pure, List.append_nil]
    rfl
  | error e =>
    rw [hl] at hv
    cases hm : r.isDefault && e.kind == .resourceUnavailable with
    | true =>
      simp only [hm, if_true] at hv
      rw [Traced.trace_bind_ok _ hv, overrides_append, hd]
      rfl
    | false =>
      simp only [hm, Bool.false_eq_true, if_false] at hv
      rw [Traced.trace_bind_error _ hv, hd]

theorem LaidOver.step (h : LaidOver start before s) (hr : Reflects s before) (ho : start.overlay = ∅)
    (c : Context) (a : Arrival) (ha : ∀ r, a.resource? = some r → s.holdsResource r = false) :
    let xs := a.statements c.deprecations ⟨start.resolver, c.world⟩
    LaidOver start (before ++ xs) (s.step (c, a.operation)) ∧
      overrides (a.operation.run s c).trace = Statement.warnings start.allowsNull before xs := by
  cases a with
  | applied source ps =>
    have hv := value_applyDeclared s c.deprecations (.ofResource source) ps
    have hs := after_of_ok (s := s) hv
    have ht : (s.applyDeclared c.deprecations (.ofResource source) ps).trace =
        layerEvents c.deprecations (.ofResource source) ⟨s, []⟩ ps := by
      rw [applyDeclared, Traced.trace_bind_ok _ (value_layer _ _ _ _), Traced.trace_pure, List.append_nil]
      rfl
    refine ⟨?_, ?_⟩
    · have hp := h.placeAll s.resources (Statement.ofDeclared c.deprecations (.ofResource source) ps)
      rw [← hs] at hp
      exact hp
    · have hw := overrides_layerEvents (l := ⟨s, []⟩) hr c.deprecations (.ofResource source) ps
      rw [← ht, h.allowsNull] at hw
      exact hw
  | added r =>
    have hh := ha r rfl
    dsimp only [Arrival.statements, Arrival.operation, Operation.run, Store.step]
    rw [after_addResource, overrides_addResource hh, hh, ← h.resolver]
    cases (Loader.load ⟨s.resolver, c.world⟩ r).value with
    | error e =>
      refine ⟨?_, rfl⟩
      rw [List.append_nil]
      exact h
    | ok ps =>
      let l : Layering := ⟨{ s with resources := s.resources ++ [r] }, []⟩
      have hl : Reflects l.store before := ⟨hr.isFinal, hr.get?_entries⟩
      have hp := h.placeAll (s.resources ++ [r]) (Statement.ofDeclared c.deprecations (.ofResource r) ps)
      refine ⟨?_, ?_⟩
      · rw [← restored_of_overlay (hp.overlay.trans ho)] at hp
        exact hp
      · have hw := overrides_layerEvents hl c.deprecations (.ofResource r) ps
        rw [← h.allowsNull]
        exact hw

theorem sublist_resources_step (s : Store) (c : Context) (a : Arrival) :
    (s.step (c, a.operation)).resources.Sublist (s.resources ++ a.resource?.toList) := by
  cases a with
  | applied source ps =>
    have hv := value_applyDeclared s c.deprecations (.ofResource source) ps
    have hs : s.step (c, .apply source ps) = _ := after_of_ok hv
    have hf := Layering.frame_placeAll ⟨s, []⟩ (Statement.ofDeclared c.deprecations (.ofResource source) ps)
    have he : (s.step (c, .apply source ps)).resources = s.resources :=
      (congrArg Store.resources hs).trans hf.resources
    change (s.step (c, .apply source ps)).resources.Sublist (s.resources ++ [])
    simp [he]
  | added r =>
    change (s.after (s.addResource c r)).resources.Sublist (s.resources ++ [r])
    rw [after_addResource]
    split
    · exact List.sublist_append_left _ _
    · split
      · rename_i ps _
        have he : (s.added c.deprecations r ps).resources = s.resources ++ [r] :=
          (frame_added s c.deprecations r ps).resources
        simp [he]
      · exact List.sublist_append_left _ _

theorem LaidOver.run (h : LaidOver start before s) (he : start.entries = ∅) (hf : start.finals = [])
    (ho : start.overlay = ∅) (arrivals : List (Context × Arrival))
    (hd : (s.resources ++ arrivals.filterMap fun x => x.2.resource?).Pairwise fun r r' => r'.same r = false) :
    let steps := arrivals.map fun x => (x.1, x.2.operation)
    let xs := arrivals.flatMap fun x => x.2.statements x.1.deprecations ⟨start.resolver, x.1.world⟩
    LaidOver start (before ++ xs) (s.run steps) ∧
      overrides (s.events steps) = Statement.warnings start.allowsNull before xs := by
  induction arrivals generalizing s before with
  | nil =>
    refine ⟨?_, rfl⟩
    rw [List.flatMap_nil, List.append_nil]
    exact h
  | cons x arrivals ih =>
    obtain ⟨c, a⟩ := x
    have hc : (a.resource?.toList ++ arrivals.filterMap fun x => x.2.resource?) =
        ((c, a) :: arrivals).filterMap fun x => x.2.resource? := by
      cases ha : a.resource? <;> simp [ha]
    rw [← hc, ← List.append_assoc] at hd
    have hn : ∀ r, a.resource? = some r → s.holdsResource r = false := by
      intro r hr
      have hs : ∀ r' ∈ s.resources, r.same r' = false := by
        intro r' hr'
        refine (List.pairwise_append.mp (List.pairwise_append.mp hd).1).2.2 r' hr' r ?_
        rw [hr]
        exact List.mem_singleton_self r
      rw [holdsResource, List.any_eq_false.mpr fun r' hr' => Bool.eq_false_iff.mp (hs r' hr'), Bool.and_false]
    obtain ⟨hl, hw⟩ := h.step (h.reflects he hf) ho c a hn
    obtain ⟨hl', hw'⟩ := ih hl (hd.sublist ((sublist_resources_step s c a).append_right _))
    refine ⟨?_, ?_⟩
    · rw [List.flatMap_cons, ← List.append_assoc]
      exact hl'
    · rw [List.flatMap_cons, Statement.warnings_append, ← hw, ← hw', ← overrides_append]
      rfl

/-- What documents make of an empty store. A name is final if one of the declarations that count for it is,
and has the entry of the last of them that writes. A declaration that does not count changes nothing, and
gives a warning if it would have changed the value of its name. -/
theorem documents_meaning (resolver : Resolver) (nulls isQuiet : Bool) (arrivals : List (Context × Arrival))
    (hd : (arrivals.filterMap fun x => x.2.resource?).Pairwise fun r r' => r'.same r = false) :
    let start := { empty resolver with allowsNull := nulls, isQuiet }
    let steps := arrivals.map fun x => (x.1, x.2.operation)
    let xs := arrivals.flatMap fun x => x.2.statements x.1.deprecations ⟨resolver, x.1.world⟩
    (∀ name, (start.run steps).isFinal name = true ↔
      ∃ x ∈ Statement.counting name xs, x.declared.isFinal = true) ∧
    (∀ name, ((start.run steps).entries.get? name).isSome = true ↔
      ∃ x ∈ Statement.counting name xs, x.declared.value.isSome = true ∨ nulls = true) ∧
    (∀ name, (start.run steps).entries.get? name =
      (((Statement.counting name xs).filter fun x => x.declared.value.isSome || nulls).getLast?).map
        fun x => ⟨x.declared.value, x.sources⟩) ∧
    ((start.run steps).entries = (Layering.placeAll ⟨start, []⟩ xs).store.entries ∧
      (start.run steps).finals = (Layering.placeAll ⟨start, []⟩ xs).store.finals) ∧
    (∀ before x after, xs = before ++ x :: after →
      (∃ y ∈ Statement.counting x.name before, y.declared.isFinal = true) →
        (Layering.placeAll ⟨start, []⟩ before).declare x.origin x.declared x.name =
            Layering.placeAll ⟨start, []⟩ before ∧
          (start.run steps).entries = (Layering.placeAll ⟨start, []⟩ (before ++ after)).store.entries ∧
          (start.run steps).finals = (Layering.placeAll ⟨start, []⟩ (before ++ after)).store.finals) ∧
    overrides (start.events steps) = Statement.warnings nulls [] xs := by
  intro start steps xs
  obtain ⟨hl, hw⟩ := (LaidOver.refl start).run rfl rfl rfl arrivals hd
  have hr : Reflects (start.run steps) xs := hl.reflects rfl rfl
  have hn : (start.run steps).allowsNull = nulls := hl.allowsNull
  have hg : ∀ name, (start.run steps).entries.get? name = Statement.lastWritten? nulls name xs := by
    intro name
    rw [← hn]
    exact hr.get?_entries name
  refine ⟨?_, ?_, hg, ⟨hl.entries, hl.finals⟩, ?_, hw⟩
  · intro name
    rw [hr.isFinal, List.any_eq_true]
  · intro name
    rw [hg, Statement.lastWritten?, Option.isSome_map, List.getLast?_isSome]
    simp [Statement.isWritten, Option.isSome_iff_ne_none, Decidable.imp_iff_not_or]
  · intro before x after hxs hx
    have h₀ : Reflects start [] := ⟨fun _ => rfl, fun _ => rfl⟩
    have hb := (Reflects.placeAll (l := ⟨start, []⟩) h₀ before).isFinal x.name
    rw [List.nil_append, List.any_eq_true.mpr hx] at hb
    have hp := Layering.place_of_isFinal hb
    have hs : Layering.placeAll ⟨start, []⟩ xs = Layering.placeAll ⟨start, []⟩ (before ++ after) := by
      rw [hxs, Layering.placeAll_append, Layering.placeAll_cons, hp, Layering.placeAll_append]
    rw [← hs]
    exact ⟨hp, hl.entries, hl.finals⟩

/-- A final value of a stream stays, and a later one under a deprecated name only warns. -/
theorem documents_meaning_stream_final :
    let c : Context := ⟨⟨Table.insert ∅ "old" ⟨["a"], none⟩, ∅, []⟩, ⟨⟨Path.parse "/", []⟩, ∅, ∅, 0⟩⟩
    let text := "<configuration><property name='a' value='1' final='true'/></configuration>"
    let stream : Resource := .stream (.text text) "here"
    let missing : Resource := .named "missing.xml" true
    let other : Resource := .named "other.xml" false
    let arrivals : List (Context × Arrival) :=
      [(c, .added missing), (c, .added stream), (c, .applied other [⟨"old", some "2", false, ["tag"]⟩])]
    let start := { empty (.fixed ∅) with allowsNull := false, isQuiet := true }
    let steps := arrivals.map fun x => (x.1, x.2.operation)
    ((arrivals.filterMap fun x => x.2.resource?).Pairwise fun r r' => r'.same r = false) ∧
      (start.run steps).isFinal "a" = true ∧
      (start.run steps).entries.get? "a" = some ⟨some "1", ["here"]⟩ ∧
      overrides (start.events steps) =
        [⟨.warning, .store, "other.xml:an attempt to override final parameter: a;  Ignoring."⟩] := by
  intro c text stream missing other arrivals start steps
  have hd : (arrivals.filterMap fun x => x.2.resource?).Pairwise fun r r' => r'.same r = false := by decide
  have hx : (arrivals.flatMap fun x => x.2.statements x.1.deprecations ⟨.fixed ∅, x.1.world⟩) =
      [⟨⟨"here", none⟩, ⟨"a", some "1", true, []⟩, "a"⟩,
        ⟨⟨"other.xml", some "other.xml"⟩, ⟨"old", some "2", false, ["tag"]⟩, "a"⟩] := by decide +kernel
  obtain ⟨hf, -, he, -, -, hw⟩ := documents_meaning (.fixed ∅) false true arrivals hd
  rw [hx] at hf he hw
  refine ⟨hd, (hf "a").mpr ?_, (he "a").trans ?_, hw.trans ?_⟩
  · decide
  · decide
  · decide

end Store
end ConfigLayers
