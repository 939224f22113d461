import ConfigLayers.Proofs.Store.InPlace
import ConfigLayers.Proofs.Store.Overlay
import ConfigLayers.Proofs.Traced

/-! Loading is all or nothing. A document is added as a whole, or the store stays as it is, even if it is changed
in place; the same holds of loading all documents again. No document is kept twice. -/
namespace ConfigLayers

namespace Resource

theorem same_comm (r r' : Resource) : r.same r' = r'.same r := by
  cases r <;> cases r' <;> simp [same, Bool.beq_comm]

theorem same_of_not_isReloadable {r : Resource} (h : r.isReloadable = false) (r' : Resource) : r.same r' = false := by
  cases r with
  | stream stream name => rfl
  | _ => cases h

end Resource

namespace Store

/-- The second store is the first with one more document, all of whose declarations are laid over it. -/
structure Extends (d : Deprecations) (r : Resource) (ps : List Declared) (s t : Store) : Prop where
  frame : Frame { s with resources := s.resources ++ [r] } t
  isFinal : ∀ name, t.isFinal name =
    (s.isFinal name || (Statement.counting name (Statement.ofDeclared d (.ofResource r) ps)).any (·.declared.isFinal))
  get?_entries : ∀ name, t.entries.get? name =
    if s.isFinal name then s.entries.get? name
    else match Statement.lastWritten? s.allowsNull name (Statement.ofDeclared d (.ofResource r) ps) with
      | some e => (s.overlay.get? name).or (some e)
      | none => s.entries.get? name

theorem extends_added (d : Deprecations) (r : Resource) (ps : List Declared) (s : Store) :
    Extends d r ps s (s.added d r ps) :=
  ⟨frame_added s d r ps, isFinal_added s d r ps, get?_entries_added s d r ps⟩

def Distinct (s : Store) : Prop :=
  s.resources.Pairwise fun r r' => r.same r' = false

variable {s t : Store} {c : Context} {r : Resource}

/-- A document that is added without an error is passed over, because it is known or because it is missing and
may be, or it is added as a whole. -/
theorem addResource_ok (h : (s.addResource c r).value = .ok t) :
    (t = s ∧ (s.holdsResource r = true ∨ r.isDefault = true ∧
      ∃ e, (Loader.load ⟨s.resolver, c.world⟩ r).value = .error e ∧ e.kind = .resourceUnavailable)) ∨
    (s.holdsResource r = false ∧
      ∃ ps, (Loader.load ⟨s.resolver, c.world⟩ r).value = .ok ps ∧ t = s.added c.deprecations r ps) := by
  rw [value_addResource] at h
  cases hh : s.holdsResource r with
  | true =>
    simp only [hh, if_true, Except.ok.injEq] at h
    exact .inl ⟨h.symm, .inl rfl⟩
  | false =>
    simp only [hh, Bool.false_eq_true, if_false] at h
    cases hl : (Loader.load ⟨s.resolver, c.world⟩ r).value with
    | ok ps =>
      simp only [hl, Except.ok.injEq] at h
      exact .inr ⟨rfl, ps, rfl, h.symm⟩
    | error e =>
      simp only [hl] at h
      split at h
      · rename_i hm
        cases h
        rw [Bool.and_eq_true, beq_iff_eq] at hm
        exact .inl ⟨rfl, .inr ⟨hm.1, e, rfl, hm.2⟩⟩
      · cases h

theorem addResource_error {e : Error} (h : (s.addResource c r).value = .error e) :
    s.holdsResource r = false ∧ (Loader.load ⟨s.resolver, c.world⟩ r).value = .error e ∧
      ¬ (r.isDefault = true ∧ e.kind = .resourceUnavailable) := by
  rw [value_addResource] at h
  split at h
  · cases h
  · rename_i hh
    split at h
    · cases h
    · rename_i e' hl
      split at h
      · cases h
      · rename_i hm
        cases h
        rw [Bool.and_eq_true, beq_iff_eq] at hm
        exact ⟨Bool.eq_false_iff.mpr hh, hl, hm⟩

/-! Which documents a store keeps. -/

theorem Distinct.of_eq (h : Distinct s) (he : t.resources = s.resources) : Distinct t := by
  rw [Distinct, he]
  exact h

theorem Distinct.append (h : Distinct s) (hr : s.holdsResource r = false) (ht : t.resources = s.resources ++ [r]) :
    Distinct t := by
  rw [Distinct, ht]
  refine List.pairwise_append.mpr ⟨h, List.pairwise_singleton _ _, fun r' hm q hq => ?_⟩
  rw [List.mem_singleton.mp hq, Resource.same_comm]
  cases hl : r.isReloadable with
  | false => exact Resource.same_of_not_isReloadable hl r'
  | true =>
    rw [holdsResource, hl, Bool.true_and, List.any_eq_false] at hr
    exact Bool.eq_false_iff.mpr (hr r' hm)

theorem Distinct.addResource (h : Distinct s) (ht : (s.addResource c r).value = .ok t) : Distinct t := by
  rcases addResource_ok ht with ⟨rfl, -⟩ | ⟨hh, ps, -, rfl⟩
  · exact h
  · exact h.append hh (frame_added s c.deprecations r ps).resources

theorem resources_layerAll {d : Deprecations} {documents : List (Resource × List Declared)}
    (h : (layerAll d s documents).value = .ok t) : t.resources = s.resources := by
  induction documents generalizing s with
  | nil =>
    cases h
    rfl
  | cons x documents ih =>
    obtain ⟨r, ps⟩ := x
    rw [layerAll, Traced.value_bind_ok _ (value_applyDeclared s d (.ofResource r) ps)] at h
    exact (ih h).trans (Layering.frame_placeAll _ _).resources

theorem resources_reload (h : (s.reload c).value = .ok t) : t.resources = s.resources := by
  obtain ⟨documents, -, h⟩ := Traced.value_bind_eq_ok_iff.mp h
  obtain ⟨u, hu, h⟩ := Traced.value_bind_eq_ok_iff.mp h
  cases h
  have hr := resources_layerAll hu
  exact hr

theorem Distinct.step (h : Distinct s) (x : Context × Operation) : Distinct (s.step x) := by
  obtain ⟨c, o⟩ := x
  cases o with
  | add r => exact after_of (motive := Distinct) h fun t ht => h.addResource ht
  | write w =>
    refine after_of (motive := Distinct) h fun t ht => h.of_eq ?_
    rcases Setter.run_ok ht with rfl | ⟨e, names, rfl⟩
    · rfl
    · rw [assignAll_eq]
  | unset name =>
    cases name with
    | none => exact h
    | some given =>
      have hs : s.step (c, .unset (some given)) = _ := after_of_ok (value_unset s c.deprecations given)
      refine h.of_eq ?_
      rw [hs, removeAll_eq]
  | apply source ps =>
    have hs : s.step (c, .apply source ps) = _ :=
      after_of_ok (value_applyDeclared s c.deprecations (.ofResource source) ps)
    exact h.of_eq (hs ▸ (Layering.frame_placeAll _ _).resources)
  | reload => exact after_of (motive := Distinct) h fun t ht => h.of_eq (resources_reload ht)
  | clear => exact h
  | allowNull allowed => exact h
  | quiet isQuiet => exact h
  | use resolver => exact h

theorem Distinct.run (h : Distinct s) (xs : List (Context × Operation)) : Distinct (s.run xs) :=
  run_induction (p := Distinct) (fun _ x _ hs => hs.step x) h

theorem Distinct.addAll (h : Distinct s) {names : List String}
    (ht : (names.foldlM (fun (s : Store) name => s.addResource c (.ofName name true)) s).value = .ok t) :
    Distinct t := by
  induction names generalizing s with
  | nil =>
    cases ht
    exact h
  | cons name names ih =>
    rw [List.foldlM_cons] at ht
    obtain ⟨u, hu, ht⟩ := Traced.value_bind_eq_ok_iff.mp ht
    exact ih (h.addResource hu) ht

/-- Loading is all or nothing, also for a store that is changed in place. To add a document fails only if its
reference or the loading of it does, and then nothing has changed. It succeeds by passing the document over, or
by adding the whole of it behind the others. Loading all documents again fails without a change. So no store
keeps the same document twice. -/
theorem load_all_or_nothing :
    (∀ (s : Store) (c : Context) (x : Except Error Resource) (e : Error) (t : Store),
      (InPlace.add c x).run s = .error e t →
        t = s ∧ (s.addReference c x).value = .error e ∧
          (x = .error e ∨ ∃ r, x = .ok r ∧ (Loader.load ⟨s.resolver, c.world⟩ r).value = .error e)) ∧
    (∀ (s : Store) (c : Context) (x : Except Error Resource) (t : Store), (InPlace.add c x).run s = .ok () t →
      ∃ r, x = .ok r ∧ (s.addResource c r).value = .ok t ∧
        ((t = s ∧ (s.holdsResource r = true ∨ r.isDefault = true ∧
            ∃ e, (Loader.load ⟨s.resolver, c.world⟩ r).value = .error e ∧ e.kind = .resourceUnavailable)) ∨
          (s.holdsResource r = false ∧
            ∃ ps, (Loader.load ⟨s.resolver, c.world⟩ r).value = .ok ps ∧ Extends c.deprecations r ps s t))) ∧
    (∀ (s : Store) (c : Context) (e : Error) (t : Store), (InPlace.reload c).run s = .error e t →
      t = s ∧ (s.reload c).value = .error e) ∧
    (∀ (resolver : Resolver) (c : Context) (names : List String) (s : Store) (xs : List (Context × Operation)),
      (ofDefaults resolver c names).value = .ok s → (s.run xs).resources.Pairwise fun r r' => r.same r' = false) := by
  refine ⟨fun s c x e t h => ?_, fun s c x t h => ?_, fun s c e t h => ?_, fun resolver c names s xs h => ?_⟩
  · rw [InPlace.run_add, InPlace.ofValue_eq_error_iff] at h
    refine ⟨h.2, h.1, ?_⟩
    cases x with
    | error e' =>
      obtain rfl : e' = e := Except.error.inj h.1
      exact .inl rfl
    | ok r => exact .inr ⟨r, rfl, (addResource_error h.1).2.1⟩
  · rw [InPlace.run_add, InPlace.ofValue_eq_ok_iff] at h
    cases x with
    | error e => cases h
    | ok r =>
      refine ⟨r, rfl, h, ?_⟩
      rcases addResource_ok h with hs | ⟨hh, ps, hl, rfl⟩
      · exact .inl hs
      · exact .inr ⟨hh, ps, hl, extends_added c.deprecations r ps s⟩
  · rw [InPlace.run_reload, InPlace.ofValue_eq_error_iff] at h
    exact ⟨h.2, h.1⟩
  · have h₀ : Distinct (empty resolver) := .nil
    exact (h₀.addAll h).run xs

/-- A file is added once, a broken document is not added at all, and where the file is gone the store keeps what
it had from it. -/
theorem load_all_or_nothing_file_gone :
    let content := Utf8.encode "<configuration><property name='a' value='1'/></configuration>".toList
    let c : Context := ⟨.empty, ⟨⟨Path.parse "/", [(["a.xml"], .file content FileTree.standardMode)]⟩, ∅, ∅, 0⟩⟩
    let gone : Context := ⟨.empty, ⟨⟨Path.parse "/", []⟩, ∅, ∅, 0⟩⟩
    let r : Resource := .file (Path.parse "/a.xml")
    let broken : Except Error Resource := .ok (.stream (.text "<configuration>") "here")
    ∃ s t e e', (ofDefaults (.fixed ∅) c ["core.xml"]).value = .ok s ∧ (InPlace.add c (.ok r)).run s = .ok () t ∧
      Extends .empty r [⟨"a", some "1", false, []⟩] s t ∧ (InPlace.add c (.ok r)).run t = .ok () t ∧
      ((InPlace.add c broken).run t = .error e t ∧ (t.addReference c broken).value = .error e) ∧
      ((InPlace.reload gone).run t = .error e' t ∧ (t.reload gone).value = .error e') ∧
      (s.run [(c, .add r), (c, .add r)]).resources.Pairwise fun r r' => r.same r' = false := by
  intro content c gone r broken
  obtain ⟨hf, hs, hr, hd⟩ := load_all_or_nothing
  have h₀ : (ofDefaults (.fixed ∅) c ["core.xml"]).value = .ok (empty (.fixed ∅)) :=
    Traced.eq_ok_of_toOption (by decide +kernel)
  have hl : (Loader.load ⟨.fixed ∅, c.world⟩ r).value = .ok [⟨"a", some "1", false, []⟩] :=
    Traced.eq_ok_of_toOption (by decide +kernel)
  let t := (empty (.fixed ∅)).added .empty r [⟨"a", some "1", false, []⟩]
  have ht : (InPlace.add c (.ok r)).run (empty (.fixed ∅)) = .ok () t := by
    rw [InPlace.run_add, InPlace.ofValue_eq_ok_iff]
    exact Traced.eq_ok_of_toOption (by decide +kernel)
  have hk : (InPlace.add c (.ok r)).run t = .ok () t := by
    rw [InPlace.run_add, InPlace.ofValue_eq_ok_iff]
    exact Traced.eq_ok_of_toOption (by decide +kernel)
  have he : Extends .empty r [⟨"a", some "1", false, []⟩] (empty (.fixed ∅)) t := by
    obtain ⟨_, hx, -, ⟨hu, -⟩ | ⟨-, ps, hps, he⟩⟩ := hs _ _ _ _ ht
    · exact absurd (congrArg (·.resources.length) hu) (by decide)
    · cases hx
      cases hl.symm.trans hps
      exact he
  obtain ⟨e, hb⟩ : ∃ e, (InPlace.add c broken).run t = .error e t := by
    rw [InPlace.run_add]
    exact InPlace.ofValue_of_toOption (by decide +kernel)
  obtain ⟨e', hg⟩ : ∃ e, (InPlace.reload gone).run t = .error e t := by
    rw [InPlace.run_reload]
    exact InPlace.ofValue_of_toOption (by decide +kernel)
  exact ⟨_, t, e, e', h₀, ht, he, hk, ⟨hb, (hf _ _ _ _ _ hb).2.1⟩, ⟨hg, (hr _ _ _ _ hg).2⟩, hd _ _ _ _ _ h₀⟩

end Store
end ConfigLayers
