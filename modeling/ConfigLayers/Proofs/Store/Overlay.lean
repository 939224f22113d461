import ConfigLayers.Proofs.Store.Expansion
import ConfigLayers.Proofs.Store.Finality
import ConfigLayers.Proofs.Store.Rebuild
import ConfigLayers.Proofs.Store.Setting

/-! The overlay holds for each name the last entry that a program has set and not removed, and shows in the
store. All operations keep it so but one: declarations that are applied without their document go over it. -/
namespace ConfigLayers
namespace Store

/-- What an operation does to a name by the wish of a program: it sets an entry, or removes what is there. -/
def deed? (name : String) (s : Store) (x : Context × Operation) : Option (Option Entry) :=
  match x.2 with
  | .write w => (w.entry? s x.1 name).map some
  | .unset _ => if removes name x then some none else none
  | .clear => some none
  | _ => none

/-- Whether an operation lays declarations over a name of the overlay and does not put the overlay back. -/
def hides (name : String) (s : Store) (x : Context × Operation) : Bool :=
  match x.2 with
  | .apply source ps =>
    (s.overlay.get? name).isSome && !s.isFinal name &&
      (Statement.lastWritten? s.allowsNull name
        (Statement.ofDeclared x.1.deprecations (.ofResource source) ps)).isSome
  | _ => false

/-- Whether something is true of an operation when its turn comes. -/
def ever (p : Store → Context × Operation → Bool) : Store → List (Context × Operation) → Bool
  | _, [] => false
  | s, x :: xs => p s x || ever p (s.step x) xs

def Shows (name : String) (s : Store) : Prop :=
  ∀ e, s.overlay.get? name = some e → s.entries.get? name = some e

variable {s : Store} {name : String}

theorem get?_overlay_removeAll (s : Store) (names : List String) (name : String) :
    (names.foldl remove s).overlay.get? name = if name ∈ names then none else s.overlay.get? name := by
  induction names generalizing s with
  | nil => simp
  | cons first names ih =>
    rw [List.foldl_cons, ih, remove, Table.get?_erase]
    by_cases hn : name = first
    · simp [hn]
    · simp [hn]

theorem overlay_addResource (s : Store) (c : Context) (r : Resource) :
    (s.after (s.addResource c r)).overlay = s.overlay := by
  rw [after_addResource]
  split
  · rfl
  · split
    · exact (frame_added s c.deprecations r _).overlay
    · rfl

theorem get?_overlay_step (s : Store) (x : Context × Operation) (name : String) :
    (s.step x).overlay.get? name = (deed? name s x).getD (s.overlay.get? name) := by
  obtain ⟨c, o⟩ := x
  cases o with
  | write w =>
    have hw := (get?_after_write s c w name).2
    change (s.after (w.run s c)).overlay.get? name = _
    rw [hw]
    change _ = ((w.entry? s c name).map some).getD _
    cases w.entry? s c name <;> rfl
  | unset given =>
    cases given with
    | none => rfl
    | some given =>
      have hs : s.step (c, .unset (some given)) = _ := after_of_ok (value_unset s c.deprecations given)
      rw [hs, get?_overlay_removeAll, deed?]
      by_cases hm : name ∈ c.deprecations.targets (Text.trim given) <;> simp [removes, hm]
  | add r => exact congrArg (Table.get? · name) (overlay_addResource s c r)
  | apply source ps =>
    have hs : s.step (c, .apply source ps) = _ :=
      after_of_ok (value_applyDeclared s c.deprecations (.ofResource source) ps)
    rw [hs, (Layering.frame_placeAll _ _).overlay]
    rfl
  | clear => rfl
  | reload =>
    refine after_of (motive := fun t => t.overlay.get? name = s.overlay.get? name) rfl fun t ht => ?_
    obtain ⟨_, u, -, hl, rfl⟩ := reload_ok ht
    exact congrArg (Table.get? · name) hl.overlay
  | allowNull allowed => rfl
  | quiet isQuiet => rfl
  | use resolver => rfl

theorem shows_of_deed {x : Context × Operation} {d : Option Entry} (h : deed? name s x = some d) :
    Shows name (s.step x) := by
  intro e he
  rw [get?_overlay_step, h] at he
  cases he
  obtain ⟨c, o⟩ := x
  cases o with
  | write w =>
    have hw : (w.entry? s c name).map some = some (some e) := h
    change (s.after (w.run s c)).entries.get? name = some e
    rw [(get?_after_write s c w name).1]
    cases hs : w.entry? s c name with
    | none => simp [hs] at hw
    | some e' =>
      rw [hs] at hw
      cases hw
      rfl
  | unset given =>
    have hu : (if removes name (c, .unset given) then some none else none) = some (some e) := h
    split at hu <;> cases hu
  | _ => cases h

theorem get?_of_addResource {e : Entry} (ho : s.overlay.get? name = some e) (he : s.entries.get? name = some e)
    (c : Context) (r : Resource) : (s.after (s.addResource c r)).entries.get? name = some e := by
  rw [after_addResource]
  split
  · exact he
  · split
    · rw [get?_entries_added, ho, he]
      split
      · rfl
      · split <;> rfl
    · exact he

theorem get?_of_applyDeclared {e : Entry} (ho : s.overlay.get? name = some e) (he : s.entries.get? name = some e)
    {c : Context} {source : Resource} {ps : List Declared} (hx : hides name s (c, .apply source ps) = false) :
    (s.after (s.applyDeclared c.deprecations (.ofResource source) ps)).entries.get? name = some e := by
  rw [after_of_ok (value_applyDeclared s c.deprecations (.ofResource source) ps), Layering.get?_entries_placeAll]
  split
  · exact he
  · rename_i hf
    have ho' : (s.overlay.get? name).isSome := by
      rw [ho]
      rfl
    have hn : Statement.lastWritten? s.allowsNull name
        (Statement.ofDeclared c.deprecations (.ofResource source) ps) = none := by
      simpa [hides, ho', hf] using hx
    rw [hn]
    exact he

theorem shows_step {x : Context × Operation} (h : Shows name s) (hx : hides name s x = false) :
    Shows name (s.step x) := by
  cases hd : deed? name s x with
  | some d => exact shows_of_deed hd
  | none =>
    intro e ho
    rw [get?_overlay_step, hd, Option.getD_none] at ho
    have he := h e ho
    obtain ⟨c, o⟩ := x
    cases o with
    | write w =>
      have hw : w.entry? s c name = none := Option.map_eq_none_iff.mp hd
      change (s.after (w.run s c)).entries.get? name = some e
      rw [(get?_after_write s c w name).1, hw]
      exact he
    | unset given =>
      cases given with
      | none => exact he
      | some given =>
        have hr : name ∉ c.deprecations.targets (Text.trim given) := fun hm => by
          simp [deed?, removes, hm] at hd
        have ht : s.step (c, .unset (some given)) = _ := after_of_ok (value_unset s c.deprecations given)
        rw [ht, get?_removeAll, if_neg hr]
        exact he
    | add r => exact get?_of_addResource ho he c r
    | apply source ps => exact get?_of_applyDeclared ho he hx
    | clear => cases hd
    | reload =>
      refine after_of (motive := fun t => t.entries.get? name = some e) he fun t ht => ?_
      obtain ⟨_, u, -, hl, rfl⟩ := reload_ok ht
      have hu : u.overlay = s.overlay := hl.overlay
      change (u.entries.insertAll u.overlay.entries).get? name = some e
      rw [Table.get?_insertAll, hu, ho]
      rfl
    | allowNull allowed => exact he
    | quiet isQuiet => exact he
    | use resolver => exact he

theorem shows_run (h : Shows name s) (xs : List (Context × Operation)) (hx : ever (hides name) s xs = false) :
    Shows name (s.run xs) := by
  induction xs generalizing s with
  | nil => exact h
  | cons x xs ih =>
    obtain ⟨h₁, h₂⟩ := Bool.or_eq_false_iff.mp hx
    exact ih (shows_step h h₁) h₂

theorem get?_overlay_run (xs : List (Context × Operation))
    (hx : ever (fun s x => (deed? name s x).isSome) s xs = false) :
    (s.run xs).overlay.get? name = s.overlay.get? name := by
  induction xs generalizing s with
  | nil => rfl
  | cons x xs ih =>
    obtain ⟨h₁, h₂⟩ := Bool.or_eq_false_iff.mp hx
    have hd : deed? name s x = none := Option.not_isSome_iff_eq_none.mp (Bool.eq_false_iff.mp h₁)
    rw [run_cons, ih h₂, get?_overlay_step, hd]
    rfl

/-- What a program sets wins over documents, as long as no declarations are applied over it. Every entry of the
overlay is then the entry of its name; and if the last deed for a name was to set it, its value is read however
many documents have been added and loaded anew since. -/
theorem overlay_wins (resolver : Resolver) (name : String) :
    (∀ xs, ever (hides name) (empty resolver) xs = false →
      ∀ e, ((empty resolver).run xs).overlay.get? name = some e →
        ((empty resolver).run xs).entries.get? name = some e) ∧
    ∀ before x after e, deed? name ((empty resolver).run before) x = some (some e) →
      ever (fun s x => (deed? name s x).isSome) ((empty resolver).run (before ++ [x])) after = false →
      ever (hides name) ((empty resolver).run (before ++ [x])) after = false →
        ((empty resolver).run (before ++ x :: after)).entries.get? name = some e ∧
          ∀ c : Context, c.deprecations.isDeprecated name = false →
            (((empty resolver).run (before ++ x :: after)).raw c name).value = .ok e.value := by
  refine ⟨fun xs hx => shows_run (fun e he => ?_) xs hx, fun before x after e hd hn hx => ?_⟩
  · cases he
  · have hr : (empty resolver).run (before ++ x :: after) = ((empty resolver).run (before ++ [x])).run after := by
      rw [← run_append, List.append_assoc]
      rfl
    have hs : (empty resolver).run (before ++ [x]) = ((empty resolver).run before).step x := run_append _ _ _
    have ho : ((empty resolver).run (before ++ x :: after)).overlay.get? name = some e := by
      rw [hr, get?_overlay_run after hn, hs, get?_overlay_step, hd]
      rfl
    have hw : Shows name ((empty resolver).run (before ++ [x])) := hs ▸ shows_of_deed hd
    have he : ((empty resolver).run (before ++ x :: after)).entries.get? name = some e := by
      rw [hr] at ho ⊢
      exact shows_run hw after hx e ho
    exact ⟨he, fun c hc => raw_of_get? he hc⟩

/-- A value that is set over that of a document stays while another document is added and all are loaded
anew. -/
theorem overlay_wins_reloaded :
    let c : Context := ⟨.empty, ⟨⟨Path.parse "/", []⟩, ∅, ∅, 0⟩⟩
    let stream : Resource := .stream (.text "<configuration><property name='a' value='3'/></configuration>") "here"
    let before : List (Context × Operation) := [(c, .apply (.named "x.xml" false) [⟨"a", some "0", false, []⟩])]
    let x : Context × Operation := (c, .write (.text (some " a ") (some "1") none))
    let after : List (Context × Operation) :=
      [(c, .apply (.named "x.xml" false) [⟨"b", some "2", false, []⟩]), (c, .add stream), (c, .reload)]
    deed? "a" ((empty (.fixed ∅)).run before) x = some (some ⟨some "1", ["programmatically"]⟩) ∧
      ever (fun s x => (deed? "a" s x).isSome) ((empty (.fixed ∅)).run (before ++ [x])) after = false ∧
      ever (hides "a") (empty (.fixed ∅)) (before ++ x :: after) = false ∧
      ((empty (.fixed ∅)).run (before ++ x :: after)).overlay.get? "a" = some ⟨some "1", ["programmatically"]⟩ ∧
      ((empty (.fixed ∅)).run (before ++ x :: after)).entries.get? "a" = some ⟨some "1", ["programmatically"]⟩ ∧
      (((empty (.fixed ∅)).run (before ++ x :: after)).raw c "a").value = .ok (some "1") := by
  intro c stream before x after
  have hd : deed? "a" ((empty (.fixed ∅)).run before) x = some (some ⟨some "1", ["programmatically"]⟩) := by decide
  have hn : ever (fun s x => (deed? "a" s x).isSome) ((empty (.fixed ∅)).run (before ++ [x])) after = false := by
    decide
  have hx : ever (hides "a") (empty (.fixed ∅)) (before ++ x :: after) = false := by decide
  have ho : ((empty (.fixed ∅)).run (before ++ x :: after)).overlay.get? "a" =
      some ⟨some "1", ["programmatically"]⟩ := by
    have hr : (empty (.fixed ∅)).run (before ++ x :: after) = ((empty (.fixed ∅)).run (before ++ [x])).run after :=
      rfl
    rw [hr, get?_overlay_run after hn]
    decide
  have hw := overlay_wins (.fixed ∅) "a"
  obtain ⟨-, hv⟩ := hw.2 before x after _ hd hn (by decide)
  exact ⟨hd, hn, hx, ho, hw.1 _ hx _ ho, hv c rfl⟩

/-- Declarations that are applied without their document hide a value that has been set before. -/
theorem applied_hides_overlay :
    let c : Context := ⟨.empty, ⟨⟨Path.parse "/", []⟩, ∅, ∅, 0⟩⟩
    let s := (empty (.fixed ∅)).run [(c, .write (.text (some "a") (some "1") none)),
      (c, .apply (.named "x.xml" false) [⟨"a", some "2", false, []⟩])]
    s.overlay.get? "a" = some ⟨some "1", ["programmatically"]⟩ ∧
      s.entries.get? "a" = some ⟨some "2", ["x.xml"]⟩ ∧ (s.raw c "a").value = .ok (some "2") := by
  refine ⟨by decide, by decide, rfl⟩

end Store
end ConfigLayers
