import ConfigLayers.Proofs.Deprecation
import ConfigLayers.Proofs.Store.Overlay

/-! Where entries come from. All that is known of the entries that setters and declarations write is known of
every entry of a store; so each value has a source, and without values that are null each entry has a value. A
value and its sources are looked for apart, and are those of one entry if none without a value comes last. -/
namespace ConfigLayers
namespace Store

def All (p : String → Entry → Prop) (s : Store) : Prop :=
  ∀ name e, s.entries.get? name = some e ∨ s.overlay.get? name = some e → p name e

variable {p : String → Entry → Prop} {s : Store}

theorem all_empty (resolver : Resolver) : All p (empty resolver) := by
  intro name e h
  rcases h with h | h <;> cases h

theorem Statement.untilFinal_sublist (xs : List Statement) : (untilFinal xs).Sublist xs := by
  induction xs with
  | nil => exact .slnil
  | cons x xs ih =>
    rw [untilFinal]
    split
    · exact (List.nil_sublist xs).cons_cons x
    · exact ih.cons_cons x

theorem Statement.mem_of_lastWritten? {nulls : Bool} {name : String} {xs : List Statement} {e : Entry}
    (h : lastWritten? nulls name xs = some e) : ∃ x ∈ xs, x.isWritten nulls = true ∧ x.name = name ∧ x.entry = e := by
  obtain ⟨x, hx, rfl⟩ := Option.map_eq_some_iff.mp h
  obtain ⟨hm, hw⟩ := List.mem_filter.mp (List.mem_of_getLast? hx)
  obtain ⟨hx', hn⟩ := List.mem_filter.mp ((untilFinal_sublist _).subset hm)
  exact ⟨x, hx', hw, by simpa using hn, rfl⟩

theorem All.placeAll {l : Layering} (h : All p l.store) {xs : List Statement}
    (hx : ∀ x ∈ xs, x.isWritten l.store.allowsNull = true → p x.name x.entry) : All p (l.placeAll xs).store := by
  intro name e he
  rw [Layering.get?_entries_placeAll, (Layering.frame_placeAll l xs).overlay] at he
  rcases he with he | he
  · split at he
    · exact h name e (.inl he)
    · rcases Option.or_eq_some_iff.mp he with he | ⟨-, he⟩
      · obtain ⟨x, hm, hw, rfl, rfl⟩ := Statement.mem_of_lastWritten? he
        exact hx x hm hw
      · exact h name e (.inl he)
  · exact h name e (.inr he)

theorem All.added (h : All p s) {d : Deprecations} {r : Resource} {ps : List Declared}
    (hx : ∀ x ∈ Statement.ofDeclared d (.ofResource r) ps, x.isWritten s.allowsNull = true → p x.name x.entry) :
    All p (s.added d r ps) := by
  have hp := All.placeAll (l := ⟨{ s with resources := s.resources ++ [r] }, []⟩) h hx
  intro name e he
  have ho : (s.added d r ps).overlay = s.overlay := (frame_added s d r ps).overlay
  rw [ho, Store.added, get?_entries_restored] at he
  rcases he with he | he
  · split at he
    · rcases Option.or_eq_some_iff.mp he with he | ⟨-, he⟩
      · exact hp name e (.inr he)
      · exact hp name e (.inl he)
    · exact hp name e (.inl he)
  · exact h name e (.inr he)

/-- Whatever a setter or a statement writes into a store has a property. -/
structure Writes (p : String → Entry → Prop) (s : Store) : Prop where
  set : ∀ c w name e, Setter.entry? s c w name = some e → p name e
  stated : ∀ x : Statement, x.isWritten s.allowsNull = true → p x.name x.entry

theorem All.write (h : All p s) (hw : Writes p s) (c : Context) (w : Setter) : All p (s.after (w.run s c)) := by
  intro name e he
  obtain ⟨hn, ho⟩ := get?_after_write s c w name
  rw [hn, ho] at he
  rcases he with he | he
  · rcases Option.or_eq_some_iff.mp he with he | ⟨-, he⟩
    · exact hw.set c w name e he
    · exact h name e (.inl he)
  · rcases Option.or_eq_some_iff.mp he with he | ⟨-, he⟩
    · exact hw.set c w name e he
    · exact h name e (.inr he)

theorem All.removeAll (h : All p s) (names : List String) : All p (names.foldl remove s) := by
  intro name e he
  rw [get?_removeAll, get?_overlay_removeAll] at he
  split at he
  · rcases he with he | he <;> cases he
  · exact h name e he

theorem All.addResource (h : All p s) (hw : Writes p s) (c : Context) (r : Resource) :
    All p (s.after (s.addResource c r)) := by
  rw [after_addResource]
  split
  · exact h
  · split
    · exact h.added fun x _ => hw.stated x
    · exact h

theorem All.reload (h : All p s) (hw : Writes p s) {c : Context} {t : Store} (ht : (s.reload c).value = .ok t) :
    All p t := by
  obtain ⟨documents, u, -, hl, rfl⟩ := reload_ok ht
  have hr : Reflects u (statementsOf c.deprecations documents) := hl.reflects rfl rfl
  have ho : u.overlay = s.overlay := hl.overlay
  have hn : u.allowsNull = s.allowsNull := hl.allowsNull
  intro name e he
  change (u.entries.insertAll u.overlay.entries).get? name = some e ∨ u.overlay.get? name = some e at he
  rw [Table.get?_insertAll, ho, hr.get?_entries, hn] at he
  rcases he with he | he
  · rcases Option.or_eq_some_iff.mp he with he | ⟨-, he⟩
    · exact h name e (.inr he)
    · obtain ⟨x, -, hx, rfl, rfl⟩ := Statement.mem_of_lastWritten? he
      exact hw.stated x hx
  · exact h name e (.inr he)

theorem All.step (h : All p s) (hw : Writes p s) (x : Context × Operation) : All p (s.step x) := by
  obtain ⟨c, o⟩ := x
  cases o with
  | write w => exact h.write hw c w
  | unset name =>
    cases name with
    | none => exact h
    | some given => exact h.removeAll _
  | add r => exact h.addResource hw c r
  | apply source ps =>
    have hv := value_applyDeclared s c.deprecations (.ofResource source) ps
    change All p (s.after (s.applyDeclared c.deprecations (.ofResource source) ps))
    rw [after_of_ok hv]
    exact All.placeAll (l := ⟨s, []⟩) h fun x _ => hw.stated x
  | clear =>
    intro name e he
    rcases he with he | he <;> cases he
  | reload => exact after_of h fun t ht => h.reload hw ht
  | allowNull allowed => exact h
  | quiet isQuiet => exact h
  | use resolver => exact h

theorem setSources_ne_nil (name : String) (targets : List String) (source : Option String) :
    setSources name targets source ≠ [] := by
  unfold setSources
  extract_lets source
  split <;> exact List.cons_ne_nil _ _

theorem Statement.sources_ne_nil (x : Statement) : x.sources ≠ [] := by
  unfold sources
  split
  · exact List.cons_ne_nil _ _
  · rename_i h
    exact List.append_ne_nil_of_left_ne_nil h _

theorem Setter.of_entry? {c : Context} {w : Setter} {name : String} {e : Entry} (h : w.entry? s c name = some e) :
    e.value = w.value ∧ (w.value.isSome || s.allowsNull) = true ∧ e.sources ≠ [] := by
  obtain ⟨given, -, h⟩ := Option.bind_eq_some_iff.mp h
  dsimp only at h
  split at h
  · rename_i hw
    simp only [Bool.and_eq_true] at hw
    cases h
    exact ⟨rfl, hw.1.1.2, setSources_ne_nil _ _ _⟩
  · cases h

def IsSourced (_ : String) (e : Entry) : Prop :=
  e.sources ≠ []

theorem writes_isSourced (s : Store) : Writes IsSourced s where
  set _ _ _ _ h := (Setter.of_entry? h).2.2
  stated x _ := x.sources_ne_nil

theorem sources_run_ne_nil (resolver : Resolver) (xs : List (Context × Operation)) {name : String} {e : Entry}
    (he : ((empty resolver).run xs).entries.get? name = some e) : e.sources ≠ [] := by
  have h : All IsSourced ((empty resolver).run xs) :=
    run_induction (fun s x _ h => h.step (writes_isSourced s) x) (all_empty resolver)
  exact h name e (.inl he)

/-- Whether an operation lets a store take values that are null. -/
def Operation.allowsNulls : Operation → Bool
  | allowNull allowed => allowed
  | _ => false

theorem allowsNull_step (s : Store) (x : Context × Operation) :
    (s.step x).allowsNull = match x.2 with
      | .allowNull allowed => allowed
      | _ => s.allowsNull := by
  obtain ⟨c, o⟩ := x
  cases o with
  | write w =>
    change (s.after (w.run s c)).allowsNull = s.allowsNull
    rw [after_write_eq]
  | unset name =>
    cases name with
    | none => rfl
    | some given =>
      change ((c.deprecations.targets (Text.trim given)).foldl remove s).allowsNull = s.allowsNull
      rw [removeAll_eq]
  | add r =>
    change (s.after (s.addResource c r)).allowsNull = s.allowsNull
    rw [after_addResource]
    split
    · rfl
    · split
      · exact (frame_added s c.deprecations r _).allowsNull
      · rfl
  | apply source ps =>
    have hv := value_applyDeclared s c.deprecations (.ofResource source) ps
    change (s.after (s.applyDeclared c.deprecations (.ofResource source) ps)).allowsNull = s.allowsNull
    rw [after_of_ok hv]
    exact (Layering.frame_placeAll ⟨s, []⟩ _).allowsNull
  | clear => rfl
  | reload =>
    refine after_of (motive := fun t => t.allowsNull = s.allowsNull) rfl fun t ht => ?_
    obtain ⟨_, u, -, hl, rfl⟩ := reload_ok ht
    exact hl.allowsNull
  | allowNull allowed => rfl
  | quiet isQuiet => rfl
  | use resolver => rfl

def IsValued (_ : String) (e : Entry) : Prop :=
  e.value.isSome = true

theorem writes_isValued (h : s.allowsNull = false) : Writes IsValued s where
  set c w name e he := by
    obtain ⟨hv, hw, -⟩ := Setter.of_entry? he
    simpa [IsValued, hv, h] using hw
  stated x hx := by simpa [IsValued, Statement.entry, Statement.isWritten, h] using hx

theorem isSome_value_run {xs : List (Context × Operation)} (hx : ∀ x ∈ xs, x.2.allowsNulls = false)
    (resolver : Resolver) {name : String} {e : Entry}
    (he : ((empty resolver).run xs).entries.get? name = some e) : e.value.isSome = true := by
  have h : ((empty resolver).run xs).allowsNull = false ∧ All IsValued ((empty resolver).run xs) := by
    refine run_induction (p := fun s => s.allowsNull = false ∧ All IsValued s) (fun s x hm ⟨hn, ha⟩ => ?_)
      ⟨rfl, all_empty resolver⟩
    refine ⟨?_, ha.step (writes_isValued hn) x⟩
    rw [allowsNull_step]
    have hxm := hx x hm
    split
    · rename_i h
      rw [h] at hxm
      exact hxm
    · exact hn
  exact h.2 name e (.inl he)

/-- The entry of the last of some names that is stored. -/
def lastAmong (s : Store) (names : List String) : Option Entry :=
  (names.filterMap s.entries.get?).getLast?

variable {names : List String} {e : Entry} {v : String}

theorem sourcesAmong_eq (s : Store) (names : List String) :
    s.sourcesAmong names = (s.lastAmong names).map Entry.sources := by
  rw [sourcesAmong, lastAmong, ← List.getLast?_map, List.map_filterMap]

theorem valueAmong_eq_getLast? (s : Store) (names : List String) :
    s.valueAmong names = ((names.filterMap s.entries.get?).filterMap Entry.value).getLast? := by
  rw [valueAmong, List.filterMap_filterMap]

theorem get?_of_lastAmong (h : s.lastAmong names = some e) : ∃ name ∈ names, s.entries.get? name = some e :=
  List.mem_filterMap.mp (List.mem_of_getLast? h)

theorem value_of_lastAmong (h : s.lastAmong names = some e) (he : e.value ≠ none) : s.valueAmong names = e.value := by
  obtain ⟨before, hb⟩ := List.getLast?_eq_some_iff.mp h
  obtain ⟨v, hv⟩ := Option.ne_none_iff_exists'.mp he
  rw [valueAmong_eq_getLast?, hb, List.filterMap_append, List.filterMap_cons_some hv, hv]
  exact List.getLast?_concat

theorem lastAmong_of_value (h : s.valueAmong names = some v) : ∃ e, s.lastAmong names = some e := by
  rw [valueAmong_eq_getLast?] at h
  obtain ⟨e, hm, -⟩ := List.mem_filterMap.mp (List.mem_of_getLast? h)
  exact ⟨_, List.getLast?_eq_some_getLast (List.ne_nil_of_mem hm)⟩

/-- Whatever has been done with a store, a value that is read under a name has sources, those of the last entry that
the name is redirected to. They are sources of the value, as an entry for the name has both, unless the last entry has
no value. Without values that are null it always has one. -/
theorem sources_of_value (resolver : Resolver) (xs : List (Context × Operation)) (c : Context) (name v : String) :
    let s := (empty resolver).run xs
    let targets := c.deprecations.targets name
    (s.raw c name).value = .ok (some v) →
    ∃ last, s.lastAmong targets = some last ∧ (s.sources c name).value = .ok (some last.sources) ∧
      (last.value ≠ none → ∃ target ∈ targets, s.entries.get? target = some ⟨some v, last.sources⟩) ∧
      ((∀ x ∈ xs, x.2.allowsNulls = false) → last.value ≠ none) := by
  intro s targets h
  have hv : s.valueAmong targets = some v := Except.ok.inj h
  obtain ⟨last, hl⟩ := lastAmong_of_value hv
  obtain ⟨target, ht, he⟩ := get?_of_lastAmong hl
  refine ⟨last, hl, ?_, fun hn => ⟨target, ht, ?_⟩, fun hx => ?_⟩
  · change Except.ok (s.sourcesAmong targets) = _
    rw [sourcesAmong_eq, hl]
    rfl
  · rw [value_of_lastAmong hl hn] at hv
    rw [he, ← hv]
  · exact Option.isSome_iff_ne_none.mp (isSome_value_run hx resolver he)

/-- Two replacements have been set through the deprecated name, and the second to another value after that, which is
read under the deprecated name together with its sources. -/
theorem sources_of_value_redirected :
    let d := Deprecations.empty.after [.add (some "old") [some "a", some "b"] none]
    let c : Context := ⟨d, ⟨⟨Path.parse "/", []⟩, ∅, ∅, 0⟩⟩
    let s := (empty (.fixed ∅)).run
      [(c, .write (.text (some "old") (some "1") none)), (c, .write (.text (some "b") (some "2") (some "other")))]
    (s.raw c "old").value = .ok (some "2") ∧ (s.sources c "old").value = .ok (some ["other"]) ∧
      ∃ target ∈ d.targets "old", s.entries.get? target = some ⟨some "2", ["other"]⟩ := by
  intro d c s
  have hr : (s.raw c "old").value = .ok (some "2") := rfl
  obtain ⟨last, hl, hs, he, hn⟩ := sources_of_value (.fixed ∅) _ c "old" "2" hr
  have hlast : last = ⟨some "2", ["other"]⟩ := Option.some.inj (hl.symm.trans rfl)
  subst hlast
  exact ⟨hr, hs, he (hn (by decide))⟩

/-- The value of one replacement, with the sources of another one that has no value. -/
theorem sources_of_null :
    let d := Deprecations.empty.after [.add (some "old") [some "a", some "b"] none]
    let c : Context := ⟨d, ⟨⟨Path.parse "/", []⟩, ∅, ∅, 0⟩⟩
    let s := (empty (.fixed ∅)).run [(c, .allowNull true), (c, .write (.text (some "a") (some "1") none)),
      (c, .write (.text (some "b") none (some "other")))]
    (s.raw c "old").value = .ok (some "1") ∧ (s.sources c "old").value = .ok (some ["other"]) ∧
      ∀ target ∈ d.targets "old", s.entries.get? target ≠ some ⟨some "1", ["other"]⟩ :=
  ⟨rfl, rfl, by decide⟩

end Store
end ConfigLayers
