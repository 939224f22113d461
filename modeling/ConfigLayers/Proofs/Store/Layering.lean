import ConfigLayers.Proofs.Store.Statements

/-! Declarations laid over a store, seen as the statements they make one after the other. Each lemma says
for one name what all statements together have done to it. -/
namespace ConfigLayers
namespace Store

/-- The second store is the first but for entries and final names. -/
structure Frame (s t : Store) : Prop where
  overlay : t.overlay = s.overlay
  resources : t.resources = s.resources
  allowsNull : t.allowsNull = s.allowsNull
  isQuiet : t.isQuiet = s.isQuiet
  resolver : t.resolver = s.resolver

theorem Frame.refl (s : Store) : Frame s s :=
  ⟨rfl, rfl, rfl, rfl, rfl⟩

theorem Frame.trans {s t u : Store} (h : Frame s t) (h' : Frame t u) : Frame s u :=
  ⟨h'.overlay.trans h.overlay, h'.resources.trans h.resources, h'.allowsNull.trans h.allowsNull,
    h'.isQuiet.trans h.isQuiet, h'.resolver.trans h.resolver⟩

theorem Frame.eq {s t : Store} (h : Frame s t) (he : t.entries = s.entries) (hf : t.finals = s.finals) : t = s := by
  obtain ⟨ho, hr, hn, hq, hs⟩ := h
  cases s
  cases t
  simp_all

@[simp] theorem entries_markFinal (s : Store) (name : String) : (s.markFinal name).entries = s.entries := by
  unfold markFinal
  split <;> rfl

theorem finals_markFinal (s : Store) (name : String) :
    (s.markFinal name).finals = if s.isFinal name then s.finals else s.finals ++ [name] := by
  unfold markFinal
  split <;> rfl

theorem frame_markFinal (s : Store) (name : String) : Frame s (s.markFinal name) := by
  unfold markFinal
  split <;> exact ⟨rfl, rfl, rfl, rfl, rfl⟩

namespace Layering

def place (l : Layering) (x : Statement) : Layering :=
  l.declare x.origin x.declared x.name

def placeAll (l : Layering) (xs : List Statement) : Layering :=
  xs.foldl place l

@[simp] theorem placeAll_nil (l : Layering) : l.placeAll [] = l := rfl

@[simp] theorem placeAll_cons (l : Layering) (x : Statement) (xs : List Statement) :
    l.placeAll (x :: xs) = (l.place x).placeAll xs := rfl

theorem placeAll_append (l : Layering) (xs ys : List Statement) :
    l.placeAll (xs ++ ys) = (l.placeAll xs).placeAll ys := List.foldl_append

theorem layer_eq_placeAll (d : Deprecations) (o : Origin) (l : Layering) (ps : List Declared) :
    layer d o l ps = l.placeAll (Statement.ofDeclared d o ps) := by
  rw [placeAll, Statement.ofDeclared, List.foldl_flatMap]
  simp only [List.foldl_map]
  rfl

theorem place_of_isFinal {l : Layering} {x : Statement} (h : l.store.isFinal x.name = true) : l.place x = l := by
  rw [place, declare, h]
  rfl

theorem place_of_not_isFinal {l : Layering} {x : Statement} (h : l.store.isFinal x.name = false) :
    l.place x =
      let entries :=
        if x.isWritten l.store.allowsNull then l.store.entries.insert x.name x.entry else l.store.entries
      let store := { l.store with entries }
      ⟨if x.declared.isFinal then store.markFinal x.name else store,
        if x.isWritten l.store.allowsNull then l.touched ++ [x.name] else l.touched⟩ := by
  rw [place, declare, h, Statement.sources_eq]
  rfl

theorem frame_place (l : Layering) (x : Statement) : Frame l.store (l.place x).store := by
  cases h : l.store.isFinal x.name with
  | true =>
    rw [place_of_isFinal h]
    exact .refl _
  | false =>
    rw [place_of_not_isFinal h]
    cases x.declared.isFinal with
    | true =>
      simp only [if_true]
      refine Frame.trans ?_ (frame_markFinal _ _)
      exact ⟨rfl, rfl, rfl, rfl, rfl⟩
    | false => exact ⟨rfl, rfl, rfl, rfl, rfl⟩

theorem entries_place (l : Layering) (x : Statement) :
    (l.place x).store.entries =
      if l.store.isFinal x.name = false ∧ x.isWritten l.store.allowsNull then l.store.entries.insert x.name x.entry
      else l.store.entries := by
  cases h : l.store.isFinal x.name with
  | true =>
    rw [place_of_isFinal h]
    rfl
  | false =>
    rw [place_of_not_isFinal h]
    cases x.declared.isFinal <;> simp

theorem finals_place (l : Layering) (x : Statement) :
    (l.place x).store.finals =
      if l.store.isFinal x.name = false ∧ x.declared.isFinal then l.store.finals ++ [x.name]
      else l.store.finals := by
  cases h : l.store.isFinal x.name with
  | true =>
    rw [place_of_isFinal h]
    rfl
  | false =>
    rw [place_of_not_isFinal h]
    cases x.declared.isFinal with
    | true =>
      simp only [if_true]
      exact (finals_markFinal _ _).trans (if_neg (Bool.eq_false_iff.mp h))
    | false => rfl

theorem touched_place (l : Layering) (x : Statement) :
    (l.place x).touched =
      if l.store.isFinal x.name = false ∧ x.isWritten l.store.allowsNull then l.touched ++ [x.name]
      else l.touched := by
  cases h : l.store.isFinal x.name with
  | true =>
    rw [place_of_isFinal h]
    rfl
  | false =>
    rw [place_of_not_isFinal h]
    simp

theorem isFinal_place (l : Layering) (x : Statement) (name : String) :
    (l.place x).store.isFinal name =
      (l.store.isFinal name || (x.name = name && x.declared.isFinal)) := by
  rw [isFinal, finals_place]
  by_cases hn : x.name = name
  · subst hn
    cases h : l.store.isFinal x.name <;> cases x.declared.isFinal <;> simp_all [isFinal]
  · have hn' : name ≠ x.name := fun e => hn e.symm
    split <;> simp [isFinal, hn, hn']

theorem get?_entries_place (l : Layering) (x : Statement) (name : String) :
    (l.place x).store.entries.get? name =
      if x.name = name ∧ l.store.isFinal name = false ∧ x.isWritten l.store.allowsNull then some x.entry
      else l.store.entries.get? name := by
  rw [entries_place]
  by_cases hn : x.name = name
  · subst hn
    split <;> simp_all
  · have hn' : name ≠ x.name := fun e => hn e.symm
    split <;> simp [hn, hn']

theorem mem_touched_place (l : Layering) (x : Statement) (name : String) :
    name ∈ (l.place x).touched ↔
      name ∈ l.touched ∨ (x.name = name ∧ l.store.isFinal name = false ∧ x.isWritten l.store.allowsNull) := by
  rw [touched_place]
  by_cases hn : x.name = name
  · subst hn
    split <;> simp_all
  · have hn' : name ≠ x.name := fun e => hn e.symm
    split <;> simp [hn, hn']

theorem frame_placeAll (l : Layering) (xs : List Statement) : Frame l.store (l.placeAll xs).store := by
  induction xs generalizing l with
  | nil => exact .refl _
  | cons x xs ih => exact (frame_place l x).trans (ih _)

theorem isFinal_placeAll (l : Layering) (xs : List Statement) (name : String) :
    (l.placeAll xs).store.isFinal name =
      (l.store.isFinal name || (Statement.counting name xs).any (·.declared.isFinal)) := by
  rw [Statement.any_counting]
  induction xs generalizing l with
  | nil => simp
  | cons x xs ih => rw [placeAll_cons, ih, isFinal_place, List.any_cons, Bool.or_assoc]

theorem get?_entries_placeAll (l : Layering) (xs : List Statement) (name : String) :
    (l.placeAll xs).store.entries.get? name =
      if l.store.isFinal name then l.store.entries.get? name
      else (Statement.lastWritten? l.store.allowsNull name xs).or (l.store.entries.get? name) := by
  induction xs generalizing l with
  | nil => simp [Statement.lastWritten?, Statement.counting, Statement.untilFinal]
  | cons x xs ih =>
    rw [placeAll_cons, ih, isFinal_place, get?_entries_place, (frame_place l x).allowsNull]
    by_cases hn : x.name = name
    · rw [Statement.lastWritten?_cons_of_eq hn]
      cases hl : l.store.isFinal name <;> cases hf : x.declared.isFinal <;>
        cases hw : x.isWritten l.store.allowsNull <;> simp [hn]
    · rw [Statement.lastWritten?_cons_of_ne hn]
      simp [hn]

theorem mem_touched_placeAll (l : Layering) (xs : List Statement) (name : String) :
    name ∈ (l.placeAll xs).touched ↔
      name ∈ l.touched ∨
        (l.store.isFinal name = false ∧ (Statement.lastWritten? l.store.allowsNull name xs).isSome) := by
  induction xs generalizing l with
  | nil => simp [Statement.lastWritten?, Statement.counting, Statement.untilFinal]
  | cons x xs ih =>
    rw [placeAll_cons, ih, isFinal_place, mem_touched_place, (frame_place l x).allowsNull]
    by_cases hn : x.name = name
    · rw [Statement.lastWritten?_cons_of_eq hn]
      cases hl : l.store.isFinal name <;> cases hf : x.declared.isFinal <;>
        cases hw : x.isWritten l.store.allowsNull <;> simp [hn]
    · rw [Statement.lastWritten?_cons_of_ne hn]
      simp [hn]

theorem placeAll_congr {l m : Layering} (he : m.store.entries = l.store.entries)
    (hf : m.store.finals = l.store.finals) (hn : m.store.allowsNull = l.store.allowsNull) (xs : List Statement) :
    (m.placeAll xs).store.entries = (l.placeAll xs).store.entries ∧
      (m.placeAll xs).store.finals = (l.placeAll xs).store.finals := by
  induction xs generalizing l m with
  | nil => exact ⟨he, hf⟩
  | cons x xs ih =>
    refine ih ?_ ?_ ?_
    · rw [entries_place, entries_place, isFinal, isFinal, he, hf, hn]
    · rw [finals_place, finals_place, isFinal, isFinal, hf]
    · rw [(frame_place m x).allowsNull, (frame_place l x).allowsNull, hn]

end Layering

/-- A store shows what some statements have made of an empty one. -/
structure Reflects (s : Store) (before : List Statement) : Prop where
  isFinal : ∀ name, s.isFinal name = (Statement.counting name before).any (·.declared.isFinal)
  get?_entries : ∀ name, s.entries.get? name = Statement.lastWritten? s.allowsNull name before

theorem Reflects.placeAll {l : Layering} {before : List Statement} (h : Reflects l.store before)
    (xs : List Statement) : Reflects (l.placeAll xs).store (before ++ xs) where
  isFinal name := by
    rw [Layering.isFinal_placeAll, h.isFinal]
    simp only [Statement.any_counting, List.any_append]
  get?_entries name := by
    rw [Layering.get?_entries_placeAll, (Layering.frame_placeAll l xs).allowsNull, h.isFinal, h.get?_entries,
      Statement.lastWritten?_append]

/-- A store that some statements have been laid over, one after the other. -/
structure LaidOver (start : Store) (before : List Statement) (s : Store) : Prop where
  entries : s.entries = (Layering.placeAll ⟨start, []⟩ before).store.entries
  finals : s.finals = (Layering.placeAll ⟨start, []⟩ before).store.finals
  overlay : s.overlay = start.overlay
  allowsNull : s.allowsNull = start.allowsNull
  resolver : s.resolver = start.resolver

variable {start s : Store} {before : List Statement}

theorem LaidOver.refl (s : Store) : LaidOver s [] s :=
  ⟨rfl, rfl, rfl, rfl, rfl⟩

theorem LaidOver.placeAll (h : LaidOver start before s) (rs : List Resource) (xs : List Statement) :
    LaidOver start (before ++ xs) (Layering.placeAll ⟨{ s with resources := rs }, []⟩ xs).store := by
  have hn : s.allowsNull = (Layering.placeAll ⟨start, []⟩ before).store.allowsNull :=
    h.allowsNull.trans (Layering.frame_placeAll ⟨start, []⟩ before).allowsNull.symm
  have hc : _ ∧ _ := Layering.placeAll_congr (m := ⟨{ s with resources := rs }, []⟩) h.entries h.finals hn xs
  have hf := Layering.frame_placeAll ⟨{ s with resources := rs }, []⟩ xs
  rw [← Layering.placeAll_append] at hc
  exact ⟨hc.1, hc.2, hf.overlay.trans h.overlay, hf.allowsNull.trans h.allowsNull, hf.resolver.trans h.resolver⟩

theorem LaidOver.reflects (h : LaidOver start before s) (he : start.entries = ∅) (hf : start.finals = []) :
    Reflects s before := by
  have h₀ : Reflects start [] := ⟨fun name => by rw [isFinal, hf]; rfl, fun name => by rw [he]; rfl⟩
  have hh := Reflects.placeAll (l := ⟨start, []⟩) h₀ before
  refine ⟨fun name => ?_, fun name => ?_⟩
  · rw [isFinal, h.finals]
    exact hh.isFinal name
  · have hn := (Layering.frame_placeAll ⟨start, []⟩ before).allowsNull
    rw [h.entries, h.allowsNull, ← hn]
    exact hh.get?_entries name

end Store
end ConfigLayers
