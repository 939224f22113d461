import ConfigLayers.Proofs.Store.Operations

/-! Final names keep their entries. Setting skips them, documents are not laid over them, and what the
overlay puts back goes to names that were not final when the document came; only removal reaches them. -/
namespace ConfigLayers
namespace Store

/-- Whether an operation lets final names stay final. -/
def Operation.keepsFinals : Operation → Bool
  | clear | reload => false
  | _ => true

/-- Whether an operation removes a name, by itself or through a deprecated name that it replaces. -/
def removes (name : String) (x : Context × Operation) : Bool :=
  match x.2 with
  | .unset (some given) => (x.1.deprecations.targets (Text.trim given)).contains name
  | _ => false

/-- The second store has a name as final as the first has it, with the same entry. -/
structure Keeps (name : String) (s t : Store) : Prop where
  isFinal : t.isFinal name = s.isFinal name
  get?_entries : t.entries.get? name = s.entries.get? name

variable {s : Store} {name : String}

theorem keeps_assignAll (h : s.isFinal name = true) (e : Entry) (names : List String) :
    Keeps name s (s.assignAll e names) := by
  refine ⟨isFinal_assignAll e s names name, ?_⟩
  rw [(get?_assignAll e s names name).1, h]
  simp

theorem keeps_write (h : s.isFinal name = true) (c : Context) (w : Setter) : Keeps name s (s.after (w.run s c)) := by
  refine after_of ⟨rfl, rfl⟩ fun t ht => ?_
  rcases Setter.run_ok ht with rfl | ⟨e, names, rfl⟩
  · exact ⟨rfl, rfl⟩
  · exact keeps_assignAll h e names

theorem keeps_added (h : s.isFinal name = true) (d : Deprecations) (r : Resource) (ps : List Declared) :
    Keeps name s (s.added d r ps) := by
  refine ⟨?_, ?_⟩
  · rw [isFinal_added, h, Bool.true_or]
  · rw [get?_entries_added, h]
    rfl

theorem keeps_addResource (h : s.isFinal name = true) (c : Context) (r : Resource) :
    Keeps name s (s.after (s.addResource c r)) := by
  rw [after_addResource]
  split
  · exact ⟨rfl, rfl⟩
  · split
    · exact keeps_added h c.deprecations r _
    · exact ⟨rfl, rfl⟩

theorem keeps_applyDeclared (h : s.isFinal name = true) (d : Deprecations) (o : Origin) (ps : List Declared) :
    Keeps name s (s.after (s.applyDeclared d o ps)) := by
  rw [after_of_ok (value_applyDeclared s d o ps)]
  refine ⟨?_, ?_⟩
  · rw [Layering.isFinal_placeAll, h, Bool.true_or]
  · rw [Layering.get?_entries_placeAll, h]
    rfl

theorem step_of_isFinal (h : s.isFinal name = true) (x : Context × Operation) (hx : x.2.keepsFinals = true) :
    (s.step x).isFinal name = true ∧
      (s.step x).entries.get? name = if removes name x then none else s.entries.get? name := by
  have hk : ∀ {t}, Keeps name s t →
      t.isFinal name = true ∧ t.entries.get? name = s.entries.get? name :=
    fun k => ⟨k.isFinal.trans h, k.get?_entries⟩
  obtain ⟨c, o⟩ := x
  cases o with
  | write w => exact hk (keeps_write h c w)
  | add r => exact hk (keeps_addResource h c r)
  | apply source ps => exact hk (keeps_applyDeclared h c.deprecations _ ps)
  | unset given =>
    cases given with
    | none => exact ⟨h, rfl⟩
    | some given =>
      have hs : s.step (c, .unset (some given)) = _ := after_of_ok (value_unset s c.deprecations given)
      rw [hs, isFinal_removeAll, get?_removeAll]
      simp [removes, h]
  | clear => cases hx
  | reload => cases hx
  | allowNull allowed => exact ⟨h, rfl⟩
  | quiet isQuiet => exact ⟨h, rfl⟩
  | use resolver => exact ⟨h, rfl⟩

theorem get?_run_of_isFinal (h : s.isFinal name = true) (xs : List (Context × Operation))
    (hx : ∀ x ∈ xs, x.2.keepsFinals = true) :
    (s.run xs).isFinal name = true ∧
      (s.run xs).entries.get? name = if xs.any (removes name) then none else s.entries.get? name := by
  induction xs generalizing s with
  | nil => exact ⟨h, rfl⟩
  | cons x xs ih =>
    obtain ⟨hf, he⟩ := step_of_isFinal h x (hx x List.mem_cons_self)
    obtain ⟨hf', he'⟩ := ih hf fun y hy => hx y (List.mem_cons_of_mem _ hy)
    refine ⟨hf', ?_⟩
    rw [run_cons, he', he, List.any_cons]
    cases removes name x with
    | true =>
      rw [Bool.true_or]
      exact ite_self none
    | false =>
      rw [Bool.false_or]
      rfl

/-- A final name is never overwritten. Whatever is set, added, applied or removed, it stays final, its entry
is the one it had or has been removed, and an entry that has been removed does not come back. -/
theorem final_never_overwritten (s : Store) (name : String) (h : s.isFinal name = true)
    (xs : List (Context × Operation)) (hx : ∀ x ∈ xs, x.2.keepsFinals = true) :
    (s.run xs).isFinal name = true ∧
      (s.run xs).entries.get? name = (if xs.any (removes name) then none else s.entries.get? name) ∧
      ∀ before after, xs = before ++ after → (s.run before).entries.get? name = none →
        (s.run xs).entries.get? name = none := by
  obtain ⟨hf, he⟩ := get?_run_of_isFinal h xs hx
  refine ⟨hf, he, fun before after hxs hn => ?_⟩
  subst hxs
  obtain ⟨hf', -⟩ := get?_run_of_isFinal h before fun x hm => hx x (List.mem_append_left _ hm)
  obtain ⟨-, he'⟩ := get?_run_of_isFinal hf' after fun x hm => hx x (List.mem_append_right _ hm)
  rw [run_append, he', hn, ite_self]

/-- Setting a final name, also through a deprecated one, leaves its entry. Once removed it cannot be set. -/
theorem final_never_overwritten_deprecated :
    let c : Context := ⟨⟨Table.insert ∅ "old" ⟨["a"], none⟩, ∅, []⟩, ⟨⟨Path.parse "/", []⟩, ∅, ∅, 0⟩⟩
    let s := (empty (.fixed ∅)).run [(c, .apply (.named "x.xml" false) [⟨"a", some "1", true, []⟩])]
    let change : Context × Operation := (c, .write (.text (some "old") (some "2") none))
    let removal : Context × Operation := (c, .unset (some "old"))
    s.isFinal "a" = true ∧ (s.run [change]).entries.get? "a" = some ⟨some "1", ["x.xml"]⟩ ∧
      (s.run [removal, change]).entries.get? "a" = none ∧ (s.run [removal, change]).isFinal "a" = true := by
  intro c s change removal
  have h : s.isFinal "a" = true := by decide
  obtain ⟨-, he, -⟩ := final_never_overwritten s "a" h [change] (by decide)
  obtain ⟨hf, -, hn⟩ := final_never_overwritten s "a" h [removal, change] (by decide)
  refine ⟨h, he.trans ?_, hn [removal] [change] rfl ?_, hf⟩
  · decide
  · decide

end Store
end ConfigLayers
