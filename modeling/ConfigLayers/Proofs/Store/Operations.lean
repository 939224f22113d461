import ConfigLayers.Proofs.Store.Layering
import ConfigLayers.Store.Load
import ConfigLayers.Store.Write

/-! What a program does with a store, one operation after the other, and what each operation does to one
name. -/
namespace ConfigLayers
namespace Store

/-- The ways of setting a value. -/
inductive Setter where
  | text (name value source : Option String)
  | ifUnset (name value : Option String)
  | int (name : Option String) (n : Int)
  | real (name : Option String) (x : Float)
  | boolean (name : Option String) (b : Bool)
  | booleanIfUnset (name : Option String) (b : Bool)
  | duration (name : Option String) (amount : Int) (unit : TimeUnit)
  | items (name : Option String) (items : List String)
  | pattern (name : Option String) (p : Pattern)
  | endpoint (name : Option String) (e : Endpoint)
  | type (name : Option String) (t : KnownType) (base : Option KnownType)

def Setter.run (s : Store) (c : Context) : Setter → Outcome Store
  | .text name value source => s.set c.deprecations name value source
  | .ifUnset name value => s.setIfUnset c name value
  | .int name n => s.setInt c.deprecations name n
  | .real name x => s.setReal c.deprecations name x
  | .boolean name b => s.setBoolean c.deprecations name b
  | .booleanIfUnset name b => s.setBooleanIfUnset c name b
  | .duration name amount unit => s.setDuration c.deprecations name amount unit
  | .items name texts => s.setItems c.deprecations name texts
  | .pattern name p => s.setPattern c.deprecations name p
  | .endpoint name e => s.setEndpoint c.deprecations name e
  | .type name t base => s.setType c.deprecations name t base

inductive Operation where
  | write (w : Setter)
  | unset (name : Option String)
  | add (r : Resource)
  | apply (source : Resource) (ps : List Declared)
  | clear
  | reload
  | allowNull (allowed : Bool)
  | quiet (isQuiet : Bool)
  | use (resolver : Resolver)

def Operation.run (s : Store) (c : Context) : Operation → Outcome Store
  | write w => w.run s c
  | unset name => s.unset c.deprecations name
  | add r => s.addResource c r
  | apply source ps => s.applyDeclared c.deprecations (.ofResource source) ps
  | clear => pure s.clear
  | reload => s.reload c
  | allowNull allowed => pure { s with allowsNull := allowed }
  | quiet isQuiet => pure { s with isQuiet }
  | use resolver => pure { s with resolver }

/-- The store after an operation. One that fails leaves it as it is. -/
def after (s : Store) (x : Outcome Store) : Store :=
  match x.value with
  | .ok t => t
  | .error _ => s

/-- The store after an operation in some surroundings. -/
def step (s : Store) (x : Context × Operation) : Store :=
  s.after (x.2.run s x.1)

def run (s : Store) (xs : List (Context × Operation)) : Store :=
  xs.foldl step s

@[simp] theorem run_nil (s : Store) : s.run [] = s := rfl

@[simp] theorem run_cons (s : Store) (x : Context × Operation) (xs : List (Context × Operation)) :
    s.run (x :: xs) = (s.step x).run xs := rfl

theorem run_append (s : Store) (xs ys : List (Context × Operation)) : s.run (xs ++ ys) = (s.run xs).run ys :=
  List.foldl_append

theorem run_induction {p : Store → Prop} {s : Store} {xs : List (Context × Operation)}
    (hx : ∀ s, ∀ x ∈ xs, p s → p (s.step x)) (h : p s) : p (s.run xs) := by
  induction xs generalizing s with
  | nil => exact h
  | cons x xs ih => exact ih (fun s y hy => hx s y (by simp [hy])) (hx s x (by simp) h)

/-- What is reported while operations are carried out. -/
def events : Store → List (Context × Operation) → List Event
  | _, [] => []
  | s, x :: xs => (x.2.run s x.1).trace ++ events (s.step x) xs

theorem after_of_ok {s t : Store} {x : Outcome Store} (h : x.value = .ok t) : s.after x = t := by
  rw [after, h]

theorem after_of {motive : Store → Prop} {s : Store} {x : Outcome Store} (hs : motive s)
    (h : ∀ t, x.value = .ok t → motive t) : motive (s.after x) := by
  unfold after
  split
  · rename_i t ht
    exact h t ht
  · exact hs

section Assign

variable (e : Entry) (s : Store)

theorem assignAll_eq (names : List String) :
    s.assignAll e names =
      { s with entries := (s.assignAll e names).entries, overlay := (s.assignAll e names).overlay } := by
  induction names generalizing s with
  | nil => rfl
  | cons name names ih =>
    have hh := ih (assign e s name)
    rw [assignAll, List.foldl_cons, ← assignAll, hh]
    unfold assign
    split <;> rfl

theorem isFinal_assignAll (names : List String) (name : String) :
    (s.assignAll e names).isFinal name = s.isFinal name := by
  rw [assignAll_eq]
  rfl

theorem get?_assign (name other : String) :
    (assign e s name).entries.get? other =
        (if other = name ∧ s.isFinal other = false then some e else s.entries.get? other) ∧
      (assign e s name).overlay.get? other =
        (if other = name ∧ s.isFinal other = false then some e else s.overlay.get? other) := by
  unfold assign
  split
  · rename_i h
    have hn : ¬ (other = name ∧ s.isFinal other = false) := by
      rintro ⟨rfl, hn⟩
      simp [h] at hn
    simp [hn]
  · rename_i h
    by_cases hn : other = name
    · subst hn
      simp [h]
    · simp [hn]

/-- A value is set under the names that are not final, in the overlay too. -/
theorem get?_assignAll (names : List String) (name : String) :
    (s.assignAll e names).entries.get? name =
        (if name ∈ names ∧ s.isFinal name = false then some e else s.entries.get? name) ∧
      (s.assignAll e names).overlay.get? name =
        (if name ∈ names ∧ s.isFinal name = false then some e else s.overlay.get? name) := by
  induction names generalizing s with
  | nil => simp [assignAll]
  | cons first names ih =>
    have hf : (assign e s first).isFinal name = s.isFinal name := isFinal_assignAll e s [first] name
    obtain ⟨he, ho⟩ := ih (assign e s first)
    obtain ⟨he', ho'⟩ := get?_assign e s first name
    rw [assignAll, List.foldl_cons, ← assignAll, he, ho, he', ho', hf]
    by_cases hn : name = first
    · subst hn
      by_cases hm : name ∈ names <;> cases hl : s.isFinal name <;> simp [hm]
    · simp [hn]

end Assign

/-- A value is set under all names that stand for the given one, if it may be set at all. -/
theorem value_set (s : Store) (d : Deprecations) (given : String) (value source : Option String) :
    (s.set d (some given) value source).value =
      if value.isNone && !s.allowsNull then .error (.nullValue (Text.trim given))
      else .ok (s.assignAll ⟨value, setSources (Text.trim given) (d.targets (Text.trim given)) source⟩
        (d.targets (Text.trim given))) := by
  cases h : value.isNone && !s.allowsNull with
  | true =>
    simp only [set, h]
    rfl
  | false =>
    simp only [set, h]
    rfl

theorem assignAll_of_set {s t : Store} {d : Deprecations} {name value source : Option String}
    (h : (s.set d name value source).value = .ok t) : ∃ e names, t = s.assignAll e names := by
  cases name with
  | none => cases h
  | some given =>
    rw [value_set] at h
    split at h
    · cases h
    · cases h
      exact ⟨_, _, rfl⟩

theorem assignAll_of_setIfUnset {s t : Store} {c : Context} {name value : Option String}
    (h : (s.setIfUnset c name value).value = .ok t) : t = s ∨ ∃ e names, t = s.assignAll e names := by
  cases name with
  | none => cases h
  | some given =>
    obtain ⟨found, -, h⟩ := Traced.value_bind_eq_ok_iff.mp h
    cases found with
    | none => exact .inr (assignAll_of_set h)
    | some _ =>
      cases h
      exact .inl rfl

theorem Setter.run_ok {s t : Store} {c : Context} {w : Setter} (h : (w.run s c).value = .ok t) :
    t = s ∨ ∃ e names, t = s.assignAll e names := by
  cases w with
  | ifUnset name value => exact assignAll_of_setIfUnset h
  | booleanIfUnset name b => exact assignAll_of_setIfUnset h
  | type name u base =>
    refine .inr ?_
    cases base with
    | none => exact assignAll_of_set h
    | some base =>
      cases hd : u.derivesFrom base with
      | true =>
        simp only [run, setType, hd] at h
        exact assignAll_of_set h
      | false =>
        simp only [run, setType, hd] at h
        cases h
  | _ => exact .inr (assignAll_of_set h)

theorem after_write_eq (s : Store) (c : Context) (w : Setter) :
    s.after (w.run s c) =
      { s with entries := (s.after (w.run s c)).entries, overlay := (s.after (w.run s c)).overlay } := by
  refine after_of (motive := fun t => t = { s with entries := t.entries, overlay := t.overlay }) rfl fun t ht => ?_
  rcases Setter.run_ok ht with rfl | ⟨e, names, rfl⟩
  · rfl
  · exact assignAll_eq e s names

theorem removeAll_eq (s : Store) (names : List String) :
    names.foldl remove s =
      { s with entries := (names.foldl remove s).entries, overlay := (names.foldl remove s).overlay } := by
  induction names generalizing s with
  | nil => rfl
  | cons first names ih =>
    rw [List.foldl_cons, ih (s.remove first)]
    rfl

theorem isFinal_removeAll (s : Store) (names : List String) (name : String) :
    (names.foldl remove s).isFinal name = s.isFinal name := by
  rw [removeAll_eq]
  rfl

theorem get?_removeAll (s : Store) (names : List String) (name : String) :
    (names.foldl remove s).entries.get? name = if name ∈ names then none else s.entries.get? name := by
  induction names generalizing s with
  | nil => simp
  | cons first names ih =>
    rw [List.foldl_cons, ih, remove, Table.get?_erase]
    by_cases hn : name = first
    · simp [hn]
    · simp [hn]

theorem value_unset (s : Store) (d : Deprecations) (given : String) :
    (s.unset d (some given)).value = .ok ((d.targets (Text.trim given)).foldl remove s) := rfl

@[simp] theorem value_applyDeclared (s : Store) (d : Deprecations) (o : Origin) (ps : List Declared) :
    (s.applyDeclared d o ps).value = .ok (Layering.placeAll ⟨s, []⟩ (Statement.ofDeclared d o ps)).store := by
  rw [← Layering.layer_eq_placeAll]
  rfl

/-- Puts the entry that a name has in an overlay into a table. -/
def restore (overlay t : Table Entry) (name : String) : Table Entry :=
  match overlay.get? name with
  | some e => t.insert name e
  | none => t

theorem restored_eq (l : Layering) :
    l.restored = { l.store with entries := l.touched.foldl (restore l.store.overlay) l.store.entries } := rfl

theorem get?_foldl_restore (overlay : Table Entry) (names : List String) (t : Table Entry) (name : String) :
    (names.foldl (restore overlay) t).get? name =
      if name ∈ names then (overlay.get? name).or (t.get? name) else t.get? name := by
  induction names generalizing t with
  | nil => simp
  | cons first names ih =>
    rw [List.foldl_cons, ih, restore]
    by_cases hn : name = first
    · subst hn
      cases ho : overlay.get? name <;> by_cases hm : name ∈ names <;> simp [hm]
    · cases ho : overlay.get? first <;> by_cases hm : name ∈ names <;> simp [hn, hm]

theorem get?_entries_restored (l : Layering) (name : String) :
    l.restored.entries.get? name =
      if name ∈ l.touched then (l.store.overlay.get? name).or (l.store.entries.get? name)
      else l.store.entries.get? name :=
  get?_foldl_restore l.store.overlay l.touched l.store.entries name

/-- A document that is not available, but may be missing, is passed over. -/
theorem value_declared (s : Store) (c : Context) (r : Resource) :
    (s.declared c r).value =
      match (Loader.load ⟨s.resolver, c.world⟩ r).value with
      | .ok ps => .ok (some ps)
      | .error e => if r.isDefault && e.kind == .resourceUnavailable then .ok none else .error e := by
  unfold declared
  cases hl : (Loader.load ⟨s.resolver, c.world⟩ r).value with
  | ok ps =>
    have hm : (some <$> Loader.load ⟨s.resolver, c.world⟩ r).value = .ok (some ps) :=
      Traced.value_bind_ok _ hl
    rw [Traced.value_bind_ok _ (Traced.value_tryCatch_ok _ hm)]
    cases hq : s.isQuiet <;> rfl
  | error e =>
    have hm : (some <$> Loader.load ⟨s.resolver, c.world⟩ r).value = .error e :=
      Traced.value_bind_error _ hl
    rw [Traced.value_bind, Traced.value_tryCatch_error _ hm]
    dsimp only
    cases r.isDefault && e.kind == .resourceUnavailable <;> rfl

def added (s : Store) (d : Deprecations) (r : Resource) (ps : List Declared) : Store :=
  (Layering.placeAll ⟨{ s with resources := s.resources ++ [r] }, []⟩
    (Statement.ofDeclared d (.ofResource r) ps)).restored

theorem value_addResource (s : Store) (c : Context) (r : Resource) :
    (s.addResource c r).value =
      if s.holdsResource r then .ok s
      else match (Loader.load ⟨s.resolver, c.world⟩ r).value with
        | .ok ps => .ok (s.added c.deprecations r ps)
        | .error e => if r.isDefault && e.kind == .resourceUnavailable then .ok s else .error e := by
  unfold addResource
  cases s.holdsResource r with
  | true => rfl
  | false =>
    simp only [Bool.false_eq_true, if_false]
    rw [Traced.value_bind, value_declared]
    cases (Loader.load ⟨s.resolver, c.world⟩ r).value with
    | ok ps =>
      change Except.ok (Layering.layer c.deprecations (.ofResource r)
        ⟨{ s with resources := s.resources ++ [r] }, []⟩ ps).restored = _
      rw [Layering.layer_eq_placeAll]
      rfl
    | error e =>
      dsimp only
      cases r.isDefault && e.kind == .resourceUnavailable <;> rfl

/-- Adding a document that the store holds or that cannot be loaded leaves the store as it is. -/
theorem after_addResource (s : Store) (c : Context) (r : Resource) :
    s.after (s.addResource c r) =
      if s.holdsResource r then s
      else match (Loader.load ⟨s.resolver, c.world⟩ r).value with
        | .ok ps => s.added c.deprecations r ps
        | .error _ => s := by
  rw [after, value_addResource]
  cases s.holdsResource r with
  | true => rfl
  | false =>
    simp only [Bool.false_eq_true, if_false]
    cases (Loader.load ⟨s.resolver, c.world⟩ r).value with
    | ok ps => rfl
    | error e =>
      dsimp only
      cases r.isDefault && e.kind == .resourceUnavailable <;> rfl

section Added

variable (s : Store) (d : Deprecations) (r : Resource) (ps : List Declared)

theorem frame_added : Frame { s with resources := s.resources ++ [r] } (s.added d r ps) := by
  obtain ⟨ho, hr, hn, hq, hs⟩ := Layering.frame_placeAll ⟨{ s with resources := s.resources ++ [r] }, []⟩
    (Statement.ofDeclared d (.ofResource r) ps)
  exact ⟨ho, hr, hn, hq, hs⟩

theorem isFinal_added (name : String) :
    (s.added d r ps).isFinal name =
      (s.isFinal name ||
        (Statement.counting name (Statement.ofDeclared d (.ofResource r) ps)).any (·.declared.isFinal)) :=
  Layering.isFinal_placeAll ⟨{ s with resources := s.resources ++ [r] }, []⟩ _ name

/-- A document gives a name an entry only if the name is not final and the overlay has none for it. -/
theorem get?_entries_added (name : String) :
    (s.added d r ps).entries.get? name =
      if s.isFinal name then s.entries.get? name
      else match Statement.lastWritten? s.allowsNull name (Statement.ofDeclared d (.ofResource r) ps) with
        | some e => (s.overlay.get? name).or (some e)
        | none => s.entries.get? name := by
  let l : Layering := ⟨{ s with resources := s.resources ++ [r] }, []⟩
  let xs := Statement.ofDeclared d (.ofResource r) ps
  have ho : (l.placeAll xs).store.overlay = s.overlay := (Layering.frame_placeAll l xs).overlay
  have ht : name ∈ (l.placeAll xs).touched ↔
      s.isFinal name = false ∧ (Statement.lastWritten? s.allowsNull name xs).isSome :=
    (Layering.mem_touched_placeAll l xs name).trans (or_iff_right (by simp [l]))
  have he : (l.placeAll xs).store.entries.get? name =
      if s.isFinal name then s.entries.get? name
      else (Statement.lastWritten? s.allowsNull name xs).or (s.entries.get? name) :=
    Layering.get?_entries_placeAll l xs name
  change (l.placeAll xs).restored.entries.get? name = _
  rw [get?_entries_restored, ho, he]
  simp only [ht]
  cases s.isFinal name with
  | true => simp
  | false => cases Statement.lastWritten? s.allowsNull name xs <;> simp

end Added

end Store
end ConfigLayers
