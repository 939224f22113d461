import ConfigLayers.Proofs.Store.Redirection
import ConfigLayers.Proofs.Table

/-! Declarations that come over a store a second time change nothing. A name that they have made final is passed
over now, and every other name is given the entry that it has. -/
namespace ConfigLayers
namespace Store

/-- What some statements still do to a store is at most to write names that it has: they make no name final that
is not, and add none. -/
structure Absorbs (s : Store) (xs : List Statement) : Prop where
  not_isFinal : ∀ x ∈ xs, s.isFinal x.name = false → x.declared.isFinal = false
  mem_keys : ∀ x ∈ xs, s.isFinal x.name = false → x.isWritten s.allowsNull = true → x.name ∈ s.entries.keys

theorem Statement.isSome_lastWritten? {nulls : Bool} {xs : List Statement} {x : Statement} (hx : x ∈ xs)
    (hw : x.isWritten nulls = true) (hf : ∀ y ∈ xs, y.name = x.name → y.declared.isFinal = false) :
    (lastWritten? nulls x.name xs).isSome = true := by
  induction xs with
  | nil => cases hx
  | cons y xs ih =>
    obtain ⟨hfy, hf⟩ := List.forall_mem_cons.mp hf
    by_cases hn : y.name = x.name
    · rw [lastWritten?_cons_of_eq hn, hfy hn]
      rcases List.mem_cons.mp hx with rfl | hx
      · simp [hw]
      · simp [ih hx hf]
    · rw [lastWritten?_cons_of_ne hn]
      refine ih ((List.mem_cons.mp hx).resolve_left fun e => hn (e ▸ rfl)) hf

namespace Layering

theorem place_of_absorbs {l : Layering} {x : Statement} (h : Absorbs l.store [x]) :
    (l.place x).store.finals = l.store.finals ∧ (l.place x).store.entries.keys = l.store.entries.keys := by
  have hf := h.not_isFinal x (List.mem_singleton_self x)
  have hk := h.mem_keys x (List.mem_singleton_self x)
  refine ⟨?_, ?_⟩
  · rw [finals_place]
    refine if_neg fun hx => ?_
    rw [hf hx.1] at hx
    exact Bool.false_ne_true hx.2
  · rw [entries_place]
    split
    · rename_i hx
      rw [Table.keys_insert, if_pos (hk hx.1 hx.2)]
    · rfl

theorem placeAll_of_absorbs {l : Layering} {xs : List Statement} (h : Absorbs l.store xs) :
    (l.placeAll xs).store.finals = l.store.finals ∧ (l.placeAll xs).store.entries.keys = l.store.entries.keys := by
  induction xs generalizing l with
  | nil => exact ⟨rfl, rfl⟩
  | cons x xs ih =>
    obtain ⟨hf, hk⟩ := place_of_absorbs (l := l) (x := x)
      ⟨fun y hy => h.not_isFinal y (by simp_all), fun y hy => h.mem_keys y (by simp_all)⟩
    have hfinal : ∀ name, (l.place x).store.isFinal name = l.store.isFinal name := fun name => by
      rw [isFinal, isFinal, hf]
    have hn : (l.place x).store.allowsNull = l.store.allowsNull := (frame_place l x).allowsNull
    have hx : Absorbs (l.place x).store xs := by
      refine ⟨fun y hy hyf => ?_, fun y hy hyf hw => ?_⟩
      · rw [hfinal] at hyf
        exact h.not_isFinal y (List.mem_cons_of_mem x hy) hyf
      · rw [hfinal] at hyf
        rw [hn] at hw
        rw [hk]
        exact h.mem_keys y (List.mem_cons_of_mem x hy) hyf hw
    obtain ⟨hf', hk'⟩ := ih hx
    exact ⟨hf'.trans hf, hk'.trans hk⟩

theorem mem_keys_of_mem_touched (s : Store) (xs : List Statement) {name : String}
    (h : name ∈ (placeAll ⟨s, []⟩ xs).touched) : name ∈ (placeAll ⟨s, []⟩ xs).store.entries.keys := by
  obtain ⟨hf, hw⟩ := ((mem_touched_placeAll ⟨s, []⟩ xs name).mp h).resolve_left List.not_mem_nil
  obtain ⟨e, he⟩ := Option.isSome_iff_exists.mp hw
  refine Table.mem_keys_iff.mpr ⟨e, ?_⟩
  rw [get?_entries_placeAll, hf, he]
  rfl

theorem absorbs_placeAll (l : Layering) (xs : List Statement) : Absorbs (l.placeAll xs).store xs := by
  have hnone : ∀ x ∈ xs, (l.placeAll xs).store.isFinal x.name = false →
      l.store.isFinal x.name = false ∧ ∀ y ∈ xs, y.name = x.name → y.declared.isFinal = false := by
    intro x hx h
    rw [isFinal_placeAll, Statement.any_counting, Bool.or_eq_false_iff, List.any_eq_false] at h
    exact ⟨h.1, fun y hy hn => by simpa [hn] using h.2 y hy⟩
  refine ⟨fun x hx h => (hnone x hx h).2 x hx rfl, fun x hx h hw => ?_⟩
  obtain ⟨hf, hfinal⟩ := hnone x hx h
  rw [(frame_placeAll l xs).allowsNull] at hw
  obtain ⟨e, he⟩ := Option.isSome_iff_exists.mp (Statement.isSome_lastWritten? hx hw hfinal)
  refine Table.mem_keys_iff.mpr ⟨e, ?_⟩
  rw [get?_entries_placeAll, hf, he]
  rfl

end Layering

theorem placeAll_placeAll (s : Store) (xs : List Statement) :
    (Layering.placeAll ⟨(Layering.placeAll ⟨s, []⟩ xs).store, []⟩ xs).store = (Layering.placeAll ⟨s, []⟩ xs).store := by
  generalize ht : (Layering.placeAll ⟨s, []⟩ xs).store = t
  have ha : Absorbs t xs := ht ▸ Layering.absorbs_placeAll ⟨s, []⟩ xs
  have hnulls : t.allowsNull = s.allowsNull := ht ▸ (Layering.frame_placeAll ⟨s, []⟩ xs).allowsNull
  obtain ⟨hf, hk⟩ := Layering.placeAll_of_absorbs (l := ⟨t, []⟩) ha
  have hg : ∀ name, (Layering.placeAll ⟨t, []⟩ xs).store.entries.get? name = t.entries.get? name := by
    intro name
    have he := Layering.get?_entries_placeAll ⟨s, []⟩ xs name
    have hi := Layering.isFinal_placeAll ⟨s, []⟩ xs name
    rw [ht] at he hi
    rw [Layering.get?_entries_placeAll, hnulls]
    cases h : t.isFinal name with
    | true => rfl
    | false =>
      have hs : s.isFinal name = false := (Bool.or_eq_false_iff.mp (hi.symm.trans h)).1
      simp only [hs, Bool.false_eq_true, if_false] at he ⊢
      rw [he, ← Option.or_assoc, Option.or_self]
  exact (Layering.frame_placeAll ⟨t, []⟩ xs).eq (Table.ext_keys hk hg) hf

theorem keys_foldl_restore (overlay : Table Entry) {names : List String} {t : Table Entry}
    (h : ∀ name ∈ names, name ∈ t.keys) : (names.foldl (restore overlay) t).keys = t.keys := by
  induction names generalizing t with
  | nil => rfl
  | cons name names ih =>
    obtain ⟨hn, hrest⟩ := List.forall_mem_cons.mp h
    have hk : (restore overlay t name).keys = t.keys := by
      unfold restore
      split
      · rw [Table.keys_insert, if_pos hn]
      · rfl
    rw [List.foldl_cons, ih (hk ▸ hrest), hk]

section Added

variable (s : Store) (d : Deprecations) (r : Resource) (ps : List Declared)

theorem keys_added :
    (s.added d r ps).entries.keys =
      (Layering.placeAll ⟨{ s with resources := s.resources ++ [r] }, []⟩
        (Statement.ofDeclared d (.ofResource r) ps)).store.entries.keys :=
  keys_foldl_restore _ fun _ => Layering.mem_keys_of_mem_touched _ _

theorem absorbs_added : Absorbs (s.added d r ps) (Statement.ofDeclared d (.ofResource r) ps) := by
  let l : Layering := ⟨{ s with resources := s.resources ++ [r] }, []⟩
  obtain ⟨hf, hk⟩ := Layering.absorbs_placeAll l (Statement.ofDeclared d (.ofResource r) ps)
  refine ⟨hf, fun x hx hn hw => ?_⟩
  rw [keys_added]
  exact hk x hx hn hw

theorem added_added (r' : Resource) (hr : Origin.ofResource r' = Origin.ofResource r) :
    (s.added d r ps).added d r' ps =
      { s.added d r ps with resources := (s.added d r ps).resources ++ [r'] } := by
  let xs := Statement.ofDeclared d (.ofResource r) ps
  have hx : Statement.ofDeclared d (.ofResource r') ps = xs := by rw [hr]
  have ha : Absorbs (s.added d r ps) xs := absorbs_added s d r ps
  have hg : ∀ name, ((s.added d r ps).added d r' ps).entries.get? name = (s.added d r ps).entries.get? name := by
    intro name
    have ho : (s.added d r ps).overlay = s.overlay := (frame_added s d r ps).overlay
    have hn : (s.added d r ps).allowsNull = s.allowsNull := (frame_added s d r ps).allowsNull
    rw [get?_entries_added _ d r' ps, hx, ho, hn]
    cases hf : (s.added d r ps).isFinal name with
    | true => rfl
    | false =>
      rw [isFinal_added, Bool.or_eq_false_iff] at hf
      rw [get?_entries_added s d r ps, hf.1]
      simp only [Bool.false_eq_true, if_false]
      cases Statement.lastWritten? s.allowsNull name xs <;> rfl
  have ha' : Absorbs { s.added d r ps with resources := (s.added d r ps).resources ++ [r'] } xs :=
    ⟨ha.not_isFinal, ha.mem_keys⟩
  obtain ⟨hf, hk⟩ := Layering.placeAll_of_absorbs (l := ⟨_, []⟩) ha'
  rw [← hx] at hf hk
  exact (frame_added _ d r' ps).eq (Table.ext_keys ((keys_added _ d r' ps).trans hk) hg) hf

end Added

theorem step_apply (s : Store) (c : Context) (source : Resource) (ps : List Declared) :
    s.step (c, .apply source ps) =
      (Layering.placeAll ⟨s, []⟩ (Statement.ofDeclared c.deprecations (.ofResource source) ps)).store :=
  after_of_ok (value_applyDeclared s c.deprecations (.ofResource source) ps)

/-- A stream is read whatever has been read before. -/
theorem step_add_stream (s : Store) (c : Context) (stream : Stream) (name : String) :
    s.step (c, .add (.stream stream name)) =
      match (Loader.load ⟨s.resolver, c.world⟩ (.stream stream name)).value with
      | .ok ps => s.added c.deprecations (.stream stream name) ps
      | .error _ => s :=
  after_addResource s c (.stream stream name)

/-- A document that comes over a store a second time changes nothing, whatever it declares: neither declarations that
are applied again from the same source, nor a stream that is read again under the same name, which only joins the
documents of the store. In between only the names that have been warned about may change. -/
theorem reapplied_document (s : Store) (c c' : Context) (hd : c'.deprecations.entries = c.deprecations.entries) :
    (∀ (source source' : Resource) (ps : List Declared), Origin.ofResource source' = Origin.ofResource source →
      let once := s.step (c, .apply source ps)
      once.step (c', .apply source' ps) = once) ∧
    ∀ (stream stream' : Stream) (name : String),
      (Loader.load ⟨s.resolver, c'.world⟩ (.stream stream' name)).value =
          (Loader.load ⟨s.resolver, c.world⟩ (.stream stream name)).value →
        let once := s.step (c, .add (.stream stream name))
        let twice := once.step (c', .add (.stream stream' name))
        twice = { once with resources := twice.resources } := by
  have htargets : ∀ o ps, Statement.ofDeclared c'.deprecations o ps = Statement.ofDeclared c.deprecations o ps := by
    intro o ps
    rw [Statement.ofDeclared, funext fun p : Declared => congrArg _ (Deprecations.targets_congr hd p.name)]
    rfl
  constructor
  · intro source source' ps ho once
    rw [step_apply, htargets, ho]
    change (Layering.placeAll ⟨s.step (c, .apply source ps), []⟩ _).store = s.step (c, .apply source ps)
    rw [step_apply]
    exact placeAll_placeAll s _
  · intro stream stream' name hl once twice
    have honce : once = _ := step_add_stream s c stream name
    have htwice : twice = _ := step_add_stream once c' stream' name
    cases h : (Loader.load ⟨s.resolver, c.world⟩ (.stream stream name)).value with
    | error e =>
      rw [h] at honce
      rw [honce, hl, h] at htwice
      rw [htwice, honce]
    | ok ps =>
      have hr : once.resolver = s.resolver := by
        rw [honce, h]
        exact (frame_added s c.deprecations (.stream stream name) ps).resolver
      have hadded : once.added c'.deprecations (.stream stream' name) ps =
          once.added c.deprecations (.stream stream' name) ps := by
        rw [added, added, htargets]
      rw [h] at honce
      rw [hr, hl, h] at htwice
      dsimp only at honce htwice
      rw [htwice, hadded, honce, added_added s c.deprecations (.stream stream name) ps (.stream stream' name) rfl]

/-- A name that is made final midway, through a deprecated name too, keeps its value the second time, and a name of
the overlay its own. -/
theorem reapplied_document_final_midway :
    let c : Context := ⟨⟨Table.insert ∅ "old" ⟨["a"], none⟩, ∅, []⟩, ⟨⟨Path.parse "/", []⟩, ∅, ∅, 0⟩⟩
    let c' : Context := { c with deprecations := { c.deprecations with warned := ["old"] } }
    let s := (empty (.fixed ∅)).assignAll ⟨some "x", ["here"]⟩ ["b"]
    let source : Resource := .named "x.xml" false
    let ps : List Declared := [⟨"a", some "1", false, []⟩, ⟨"old", some "2", true, ["tag"]⟩, ⟨"a", some "3", false, []⟩,
      ⟨"b", some "4", false, []⟩, ⟨"c", none, true, []⟩, ⟨"c", some "5", false, []⟩]
    let stream : Stream :=
      .text "<configuration><property name='old' value='2' final='true'/><property name='b' value='4'/></configuration>"
    let once := s.step (c, .apply source ps)
    let read := s.step (c, .add (.stream stream "in"))
    let reread := read.step (c', .add (.stream stream "in"))
    c'.deprecations.entries = c.deprecations.entries ∧
      (once.entries.entries = [("b", ⟨some "4", ["x.xml"]⟩), ("a", ⟨some "2", ["tag", "x.xml"]⟩)] ∧
        once.finals = ["a", "c"] ∧ once.step (c', .apply source ps) = once) ∧
      read.entries.entries = [("b", ⟨some "x", ["here"]⟩), ("a", ⟨some "2", ["in"]⟩)] ∧
        read.finals = ["a"] ∧ reread = { read with resources := reread.resources } := by
  intro c c' s source ps stream once read reread
  have h := reapplied_document s c c' rfl
  have hread : read.entries.entries = [("b", ⟨some "x", ["here"]⟩), ("a", ⟨some "2", ["in"]⟩)] ∧
      read.finals = ["a"] := by decide +kernel
  exact ⟨rfl, ⟨by decide, by decide, h.1 source source ps rfl⟩, hread.1, hread.2, h.2 stream stream "in" rfl⟩

end Store
end ConfigLayers
