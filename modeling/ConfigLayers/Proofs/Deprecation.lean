import ConfigLayers.Deprecation

/-! The registry of deprecations through its whole history. It keeps two tables, from a name to its replacements
and from a replacement to the names that it replaces, and changes each of them on its own; they tell the same. -/
namespace ConfigLayers
namespace Deprecations

/-- The names that replace a name, none if it is not deprecated. -/
def replacements (d : Deprecations) (name : String) : List String :=
  ((d.entries.get? name).map Deprecation.replacements).getD []

theorem aliases_eq (d : Deprecations) (name : String) : d.aliases name = d.replacements name ++ d.replacedBy name :=
  rfl

theorem targets_eq (d : Deprecations) (name : String) :
    d.targets name = if d.isDeprecated name then d.replacements name else [name] := by
  rw [targets, isDeprecated, Table.contains, replacements]
  cases d.entries.get? name <;> rfl

/-- Something that is done to a registry. -/
inductive Change where
  | add (name : Option String) (replacements : List (Option String)) (message : Option String)
  | use (name : String)
  | reset

/-- The registry after a change. A deprecation that cannot be added leaves it as it is. -/
def Change.run (d : Deprecations) : Change → Deprecations
  | add name replacements message => match d.add name replacements message with
    | .ok d => d
    | .error _ => d
  | use name => (d.use name).1
  | reset => empty

def after (d : Deprecations) (changes : List Change) : Deprecations :=
  changes.foldl Change.run d

theorem after_induction {p : Deprecations → Prop} (hp : ∀ d change, p d → p (Change.run d change))
    {d : Deprecations} (h : p d) (changes : List Change) : p (d.after changes) := by
  induction changes generalizing d with
  | nil => exact h
  | cons change changes ih => exact ih (hp d change h)

section Listings

variable (t : Table (List String)) (name : String)

def listed (t : Table (List String)) (name : String) : List String :=
  (t.get? name).getD []

theorem listed_insert (names : List String) (other : String) :
    listed (t.insert name names) other = if other = name then names else listed t other := by
  rw [listed, Table.get?_insert]
  split
  · rfl
  · rfl

theorem listed_unlist_singleton (r other : String) :
    listed (unlist t name [r]) other = if other = r then (listed t r).erase name else listed t other := by
  cases hr : t.get? r with
  | none =>
    have hu : unlist t name [r] = t := by simp [unlist, hr]
    have hl : listed t r = [] := by simp [listed, hr]
    rw [hu, hl]
    split
    · rename_i h
      rw [h, hl]
      rfl
    · rfl
  | some names =>
    have hu : unlist t name [r] = t.insert r (names.erase name) := by simp [unlist, hr]
    have hl : listed t r = names := by simp [listed, hr]
    rw [hu, hl, listed_insert]

theorem count_unlist (rs : List String) (a b : String) :
    (listed (unlist t name rs) b).count a = (listed t b).count a - if a = name then rs.count b else 0 := by
  induction rs generalizing t with
  | nil => simp [unlist]
  | cons r rs ih =>
    have hu : unlist t name (r :: rs) = unlist (unlist t name [r]) name rs := rfl
    rw [hu, ih, listed_unlist_singleton]
    by_cases hb : b = r
    · subst hb
      by_cases ha : a = name
      · simp only [ha, if_true, List.count_erase_self, List.count_cons_self]
        omega
      · simp [ha, List.count_erase_of_ne ha]
    · simp [hb, List.count_cons_of_ne (Ne.symm hb)]

theorem count_list (rs : List String) (a b : String) :
    (listed (list t name rs) b).count a = (listed t b).count a + if a = name then rs.count b else 0 := by
  induction rs generalizing t with
  | nil => simp [list]
  | cons r rs ih =>
    have hu : list t name (r :: rs) = list (t.insert r (listed t r ++ [name])) name rs := rfl
    rw [hu, ih, listed_insert]
    by_cases hb : b = r
    · subst hb
      by_cases ha : a = name
      · simp only [ha, if_true, List.count_append, List.count_cons_self, List.count_nil]
        omega
      · simp [ha, List.count_cons_of_ne (Ne.symm ha)]
    · simp [hb, List.count_cons_of_ne (Ne.symm hb)]

end Listings

def kept (given : List (Option String)) : List String :=
  given.filterMap fun r => r.bind fun r => if Text.trim r == "" then none else some (Text.trim r)

theorem add_eq_ok {d e : Deprecations} {name : Option String} {given : List (Option String)} {message : Option String}
    (h : d.add name given message = .ok e) :
    ∃ written, name = some written ∧ kept given ≠ [] ∧ e = { d with
      entries := d.entries.insert (Text.trim written) ⟨kept given, message⟩
      replaced := list (unlist d.replaced (Text.trim written) (d.replacements (Text.trim written)))
        (Text.trim written) (kept given) } := by
  unfold add at h
  extract_lets kept' at h
  have hk : kept' = kept given := rfl
  rw [← hk]
  clear_value kept'
  split at h
  · cases h
  · cases h
  · cases h
  · rename_i written _ hkept
    refine ⟨written, rfl, hkept, ?_⟩
    injection h with h
    subst h
    cases he : d.entries.get? (Text.trim written) with
    | none => simp [replacements, he, unlist]
    | some previous => simp [replacements, he]

/-- What holds of every registry at all times: both tables tell the same, and no deprecated name is without
replacement. -/
structure IsSound (d : Deprecations) : Prop where
  mirrored : ∀ a b, (d.replacedBy b).count a = (d.replacements a).count b
  replaced : ∀ name, d.isDeprecated name = true → d.replacements name ≠ []

theorem isSound_empty : empty.IsSound :=
  ⟨fun _ _ => rfl, fun _ h => by cases h⟩

theorem entries_use (d : Deprecations) (name : String) :
    (d.use name).1.entries = d.entries ∧ (d.use name).1.replaced = d.replaced := by
  unfold use
  cases d.entries.get? name with
  | none => exact ⟨rfl, rfl⟩
  | some deprecation =>
    dsimp only
    split
    · exact ⟨rfl, rfl⟩
    · exact ⟨rfl, rfl⟩

theorem IsSound.add {d e : Deprecations} {name : Option String} {given : List (Option String)}
    {message : Option String} (hd : d.IsSound) (h : d.add name given message = .ok e) : e.IsSound := by
  obtain ⟨written, rfl, hk, rfl⟩ := add_eq_ok h
  generalize Text.trim written = name
  generalize kept given = kept at hk ⊢
  constructor
  · intro a b
    have hb : (listed (unlist d.replaced name (d.replacements name)) b).count a =
        if a = name then 0 else (d.replacements a).count b := by
      rw [count_unlist]
      have hm : (listed d.replaced b).count a = (d.replacements a).count b := hd.mirrored a b
      rw [hm]
      by_cases ha : a = name
      · simp [ha]
      · simp [ha]
    change (listed (list _ name kept) b).count a =
      ((((d.entries.insert name ⟨kept, message⟩).get? a).map Deprecation.replacements).getD []).count b
    rw [count_list, hb, Table.get?_insert]
    by_cases ha : a = name
    · simp [ha]
    · simp [ha, replacements]
  · intro other ho
    rw [replacements, Table.get?_insert]
    by_cases hn : other = name
    · simpa [hn] using hk
    · have hc : d.isDeprecated other = true := by simpa [isDeprecated, Table.contains, hn] using ho
      simpa [hn, replacements] using hd.replaced other hc

theorem IsSound.change {d : Deprecations} (hd : d.IsSound) (change : Change) : (Change.run d change).IsSound := by
  cases change with
  | add name given message =>
    simp only [Change.run]
    split
    · rename_i e h
      exact hd.add h
    · exact hd
  | use name =>
    obtain ⟨he, hr⟩ := entries_use d name
    constructor
    · intro a b
      rw [Change.run, replacedBy, replacements, he, hr]
      exact hd.mirrored a b
    · intro other ho
      rw [Change.run, isDeprecated, he] at ho
      rw [Change.run, replacements, he]
      exact hd.replaced other ho
  | reset => exact isSound_empty

theorem isSound_after (changes : List Change) : (empty.after changes).IsSound :=
  after_induction (fun _ change h => h.change change) isSound_empty changes

/-- However a registry has been changed, a name is listed under another as often as the other is among its
replacements. So two names are each other's aliases, and equally often. -/
theorem directions_agree (changes : List Change) (a b : String) :
    let d := empty.after changes
    (d.replacedBy b).count a = (d.replacements a).count b ∧
      (b ∈ d.aliases a ↔ a ∈ d.aliases b) ∧ (d.aliases a).count b = (d.aliases b).count a := by
  intro d
  have hm := (isSound_after changes).mirrored
  have hc : (d.aliases a).count b = (d.aliases b).count a := by
    rw [aliases_eq, aliases_eq, List.count_append, List.count_append, hm b a, hm a b, Nat.add_comm]
  refine ⟨hm a b, ?_, hc⟩
  rw [← List.count_pos_iff, ← List.count_pos_iff, hc]

end Deprecations
end ConfigLayers
