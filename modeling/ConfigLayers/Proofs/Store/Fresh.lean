import ConfigLayers.Proofs.Store.Meaning
import Mathlib.Data.List.Nodup

/-! One document in a store without entries. Where each declaration has a name of its own, the store shows the
declarations with a value in their order. -/
namespace ConfigLayers
namespace Store

variable {d : Deprecations} {o : Origin} {ps : List Declared}

theorem Statement.ofDeclared_eq_map (hd : ∀ p ∈ ps, d.isDeprecated p.name = false) :
    ofDeclared d o ps = ps.map fun p => ⟨o, p, p.name⟩ := by
  induction ps with
  | nil => rfl
  | cons p ps ih =>
    have hp := Deprecations.targets_of_not_isDeprecated (hd p (by simp))
    have hps := ih fun q hq => hd q (by simp [hq])
    rw [ofDeclared, List.flatMap_cons, ← ofDeclared, hps, hp]
    rfl

/-- Declarations under new names are written one behind the other. -/
theorem Layering.entries_placeAll_of_new {l : Layering} (hn : (ps.map Declared.name).Nodup)
    (hf : ∀ p ∈ ps, l.store.isFinal p.name = false) (he : ∀ p ∈ ps, p.name ∉ l.store.entries.keys) :
    (l.placeAll (ps.map fun p => ⟨o, p, p.name⟩)).store.entries.entries =
      l.store.entries.entries ++ (ps.filter fun p => p.value.isSome || l.store.allowsNull).map fun p =>
        (p.name, ⟨p.value, o.sources p⟩) := by
  induction ps generalizing l with
  | nil => simp
  | cons p ps ih =>
    obtain ⟨hnp, hn⟩ := List.nodup_cons.mp hn
    have hne : ∀ q ∈ ps, p.name ≠ q.name := fun q hq e => hnp (e ▸ List.mem_map_of_mem hq)
    let x : Statement := ⟨o, p, p.name⟩
    have hfp : l.store.isFinal p.name = false := hf p (by simp)
    have hep : p.name ∉ l.store.entries.entries.map Prod.fst := he p (by simp)
    have hn' : (l.place x).store.allowsNull = l.store.allowsNull := (frame_place l x).allowsNull
    have hf' : ∀ q ∈ ps, (l.place x).store.isFinal q.name = false := by
      intro q hq
      rw [isFinal_place, hf q (by simp [hq])]
      simp [x, hne q hq]
    have hx : (l.place x).store.entries.entries =
        l.store.entries.entries ++
          if p.value.isSome || l.store.allowsNull then [(p.name, ⟨p.value, o.sources p⟩)] else [] := by
      have hs : x.sources = o.sources p := (Statement.sources_eq x).symm
      rw [entries_place, hfp, Statement.isWritten, Statement.entry, hs]
      cases hw : p.value.isSome || l.store.allowsNull with
      | true =>
        simp only [x, and_self, if_true]
        exact Table.put_of_not_mem hep _
      | false => simp
    have he' : ∀ q ∈ ps, q.name ∉ (l.place x).store.entries.keys := by
      intro q hq
      have hk : q.name ∉ l.store.entries.entries.map Prod.fst := he q (by simp [hq])
      have hqp : q.name ≠ p.name := fun e => hne q hq e.symm
      rw [Table.keys, hx, List.map_append, List.mem_append]
      split
      · simpa [hqp] using hk
      · simpa using hk
    rw [List.map_cons, placeAll_cons, ih hn hf' he', hx, hn', List.filter_cons]
    split <;> simp

theorem value_addResource_empty {resolver : Resolver} {c : Context} {r : Resource}
    (h : (Loader.load ⟨resolver, c.world⟩ r).value = .ok ps) :
    ((empty resolver).addResource c r).value = .ok ((empty resolver).added c.deprecations r ps) := by
  have hh : (empty resolver).holdsResource r = false := Bool.and_false _
  have hl : (Loader.load ⟨(empty resolver).resolver, c.world⟩ r).value = .ok ps := h
  rw [value_addResource, hh, hl]
  rfl

theorem isFinal_added_of_current (hd : ∀ p ∈ ps, d.isDeprecated p.name = false) (resolver : Resolver) (r : Resource)
    (name : String) :
    ((empty resolver).added d r ps).isFinal name = ps.any fun p => p.name = name && p.isFinal := by
  rw [isFinal_added, Statement.any_counting, Statement.ofDeclared_eq_map hd, List.any_map]
  rfl

theorem any_isFinal_of_mem (hn : (ps.map Declared.name).Nodup) {p : Declared} (hp : p ∈ ps) :
    (ps.any fun q => q.name = p.name && q.isFinal) = p.isFinal := by
  have hu : ∀ q ∈ ps, q.name = p.name → q = p := fun q hq e => List.inj_on_of_nodup_map hn hq hp e
  rw [Bool.eq_iff_iff, List.any_eq_true]
  constructor
  · rintro ⟨q, hq, h⟩
    obtain ⟨hname, hfinal⟩ := Bool.and_eq_true_iff.mp h
    exact hu q hq (of_decide_eq_true hname) ▸ hfinal
  · exact fun h => ⟨p, hp, by simpa using h⟩

theorem snapshot_added (hn : (ps.map Declared.name).Nodup) (hd : ∀ p ∈ ps, d.isDeprecated p.name = false)
    (resolver : Resolver) (r : Resource) :
    ((empty resolver).added d r ps).snapshot =
      (ps.filter fun p => p.value.isSome).map fun p => { p with sources := (Origin.ofResource r).sources p } := by
  let l : Layering := ⟨{ empty resolver with resources := [] ++ [r] }, []⟩
  let xs := Statement.ofDeclared d (.ofResource r) ps
  have ho : (l.placeAll xs).store.overlay = ∅ := (Layering.frame_placeAll l xs).overlay
  have ha : (empty resolver).added d r ps = (l.placeAll xs).store := restored_of_overlay ho
  have hx : xs = ps.map fun p => ⟨.ofResource r, p, p.name⟩ := Statement.ofDeclared_eq_map hd
  have hw : (fun p : Declared => p.value.isSome || l.store.allowsNull) = fun p => p.value.isSome :=
    funext fun p => Bool.or_false _
  have he : ((empty resolver).added d r ps).entries.entries =
      (ps.filter fun p => p.value.isSome).map fun p => (p.name, ⟨p.value, (Origin.ofResource r).sources p⟩) := by
    rw [ha, hx, Layering.entries_placeAll_of_new hn (fun _ _ => rfl) fun _ _ => List.not_mem_nil, hw]
    rfl
  have hf : ∀ p ∈ ps, ((empty resolver).added d r ps).isFinal p.name = p.isFinal := by
    intro p hp
    rw [isFinal_added_of_current hd, any_isFinal_of_mem hn hp]
  rw [snapshot, he, List.map_map]
  refine List.map_congr_left fun p hp => ?_
  simp only [Function.comp, hf p (List.mem_of_mem_filter hp)]

end Store
end ConfigLayers
