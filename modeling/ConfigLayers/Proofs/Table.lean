import ConfigLayers.Table
import Mathlib.Data.List.Basic

/-! Tables whose entries are known: names that are new come behind the others. -/
namespace ConfigLayers
namespace Table

variable {α : Type}

theorem mem_keys_iff {t : Table α} {name : String} : name ∈ t.keys ↔ ∃ value, t.get? name = some value := by
  rw [← contains_iff, contains, Option.isSome_iff_exists]

theorem get?_eq_some_iff {t : Table α} {name : String} {value : α} :
    t.get? name = some value ↔ (name, value) ∈ t.entries := by
  refine ⟨fun h => ?_, find_of_mem t.nodup⟩
  obtain ⟨entry, hm, rfl⟩ := List.mem_map.mp (mem_keys_iff.mpr ⟨value, h⟩)
  have he : t.get? entry.1 = some entry.2 := find_of_mem t.nodup hm
  cases h.symm.trans he
  exact hm

theorem entries_eq_filterMap_keys (t : Table α) :
    t.entries = t.keys.filterMap fun name => (t.get? name).map fun value => (name, value) := by
  rw [keys, List.filterMap_map]
  refine (List.filterMap_some.symm.trans (List.filterMap_congr fun e he => ?_))
  rw [Function.comp_apply, get?_eq_some_iff.mpr he]
  rfl

theorem ext_keys {s t : Table α} (hk : s.keys = t.keys) (hg : ∀ name, s.get? name = t.get? name) : s = t := by
  apply ext
  rw [entries_eq_filterMap_keys s, entries_eq_filterMap_keys t, hk, funext hg]

theorem insert_of_get? {t : Table α} {name : String} {value : α} (h : t.get? name = some value) :
    t.insert name value = t := by
  apply ext_keys
  · rw [keys_insert, if_pos (mem_keys_iff.mpr ⟨value, h⟩)]
  · intro other
    rw [get?_insert]
    split
    · rename_i ho
      rw [ho, h]
    · rfl

theorem entries_insert_of_new {t : Table α} {name : String} (h : name ∉ t.keys) (value : α) :
    (t.insert name value).entries = t.entries ++ [(name, value)] :=
  put_of_not_mem h value

theorem entries_insertAll_of_new {t : Table α} {entries : List (String × α)} (hn : (entries.map Prod.fst).Nodup)
    (h : ∀ name ∈ entries.map Prod.fst, name ∉ t.keys) : (t.insertAll entries).entries = t.entries ++ entries := by
  induction entries generalizing t with
  | nil => exact (List.append_nil _).symm
  | cons entry rest ih =>
    obtain ⟨hnew, hrest⟩ := List.forall_mem_cons.mp h
    obtain ⟨hm, hnodup⟩ := List.nodup_cons.mp hn
    have hnot : ∀ name ∈ rest.map Prod.fst, name ∉ (t.insert entry.1 entry.2).keys := by
      intro name hr hk
      rw [keys_insert, if_neg hnew, List.mem_append, List.mem_singleton] at hk
      rcases hk with hk | rfl
      · exact hrest name hr hk
      · exact hm hr
    rw [insertAll, List.foldl_cons, ← insertAll, ih hnodup hnot, entries_insert_of_new hnew, List.append_assoc]
    rfl

theorem entries_ofList {entries : List (String × α)} (h : (entries.map Prod.fst).Nodup) :
    (ofList entries).entries = entries :=
  entries_insertAll_of_new h fun _ _ hk => List.not_mem_nil hk

theorem ofList_entries (t : Table α) : ofList t.entries = t :=
  ext (entries_ofList t.nodup)

theorem filter_keys (t : Table α) (p : String → Bool) :
    t.keys.filter p = (t.entries.filter fun e => p e.1).map Prod.fst :=
  List.filter_map

theorem get?_insertIfNew (t : Table α) (name other : String) (value : α) :
    (t.insertIfNew name value).get? other = (t.get? other).or (if other = name then some value else none) := by
  unfold insertIfNew contains
  by_cases ho : other = name
  · subst ho
    cases hv : t.get? other with
    | none => simp
    | some old => simp [hv]
  · split <;> simp [ho]

def insertAllIfNew (t : Table α) (entries : List (String × α)) : Table α :=
  entries.foldl (fun t e => t.insertIfNew e.1 e.2) t

theorem get?_insertAllIfNew (t : Table α) (entries : List (String × α)) (name : String) :
    (t.insertAllIfNew entries).get? name = (t.get? name).or (find name entries) := by
  induction entries generalizing t with
  | nil => exact (Option.or_none ..).symm
  | cons entry rest ih =>
    have hc : t.insertAllIfNew (entry :: rest) = (t.insertIfNew entry.1 entry.2).insertAllIfNew rest := rfl
    rw [hc, ih, get?_insertIfNew, find, Option.or_assoc]
    by_cases he : entry.1 = name
    · simp [he]
    · have he' : name ≠ entry.1 := fun h => he h.symm
      simp [he, he']

theorem entries_insertAllIfNew {t : Table α} {entries : List (String × α)} (hn : (entries.map Prod.fst).Nodup) :
    (t.insertAllIfNew entries).entries = t.entries ++ entries.filter fun e => !t.contains e.1 := by
  induction entries generalizing t with
  | nil => exact (List.append_nil _).symm
  | cons entry rest ih =>
    obtain ⟨hm, hnodup⟩ := List.nodup_cons.mp hn
    have hc : t.insertAllIfNew (entry :: rest) = (t.insertIfNew entry.1 entry.2).insertAllIfNew rest := rfl
    rw [hc, ih hnodup, insertIfNew, List.filter_cons]
    cases ht : t.contains entry.1 with
    | true => simp
    | false =>
      have hnew : entry.1 ∉ t.keys := fun hk => by simp [contains_iff.mpr hk] at ht
      have hrest : ∀ e ∈ rest, (!(t.insert entry.1 entry.2).contains e.1) = !t.contains e.1 := by
        intro e he
        have hne : e.1 ≠ entry.1 := fun h => hm (h ▸ List.mem_map_of_mem he)
        simp [contains, hne]
      simp only [Bool.false_eq_true, if_false, Bool.not_false, if_true]
      rw [entries_insert_of_new hnew, List.filter_congr hrest, List.append_assoc]
      rfl

end Table
end ConfigLayers
