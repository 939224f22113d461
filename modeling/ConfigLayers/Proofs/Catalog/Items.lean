import ConfigLayers.Catalog.Basic
import ConfigLayers.Proofs.Failing
import ConfigLayers.Proofs.Table

/-! What a catalog has of the items that it is made of: each name with its item, the mandatory names in front. Mandatory
items that are added where they are not there do not change whether all of them are as expected. -/
namespace ConfigLayers
namespace Catalog

variable {items mandatory : Table Item} {name : String} {item : Item}

/-- The items with mandatory names, in the order of those. -/
def first (items mandatory : Table Item) : List (String × Item) :=
  mandatory.keys.filterMap fun name => (items.get? name).map fun item => (name, item)

theorem map_fst_filterMap_get? (items : Table Item) (names : List String) :
    (names.filterMap fun name => (items.get? name).map fun item => (name, item)).map Prod.fst =
      names.filter items.contains := by
  induction names with
  | nil => rfl
  | cons name names ih =>
    rw [List.filterMap_cons, List.filter_cons, Table.contains]
    cases items.get? name <;> simp [ih]

theorem map_fst_first (items mandatory : Table Item) :
    (first items mandatory).map Prod.fst = mandatory.keys.filter items.contains :=
  map_fst_filterMap_get? items mandatory.keys

theorem entries_ofList_first (items mandatory : Table Item) :
    (Table.ofList (first items mandatory)).entries = first items mandatory := by
  refine Table.entries_ofList ?_
  rw [map_fst_first]
  exact mandatory.nodup.filter _

theorem items_ofItems (items mandatory : Table Item) :
    (ofItems items mandatory).items = (Table.ofList (first items mandatory)).insertAllIfNew items.entries := rfl

theorem get?_ofItems (items mandatory : Table Item) (name : String) :
    (ofItems items mandatory).get? name = items.get? name := by
  rw [get?, items_ofItems, Table.get?_insertAllIfNew]
  cases hf : (Table.ofList (first items mandatory)).get? name with
  | none => exact Option.none_or
  | some item =>
    rw [Table.get?_eq_some_iff, entries_ofList_first] at hf
    obtain ⟨other, -, hm⟩ := List.mem_filterMap.mp hf
    obtain ⟨item', hi, he⟩ := Option.map_eq_some_iff.mp hm
    cases he
    exact hi.symm

theorem names_ofItems (items mandatory : Table Item) :
    (ofItems items mandatory).names =
      mandatory.keys.filter items.contains ++ items.keys.filter fun name => !mandatory.contains name := by
  have hrest : ∀ e ∈ items.entries,
      (!(Table.ofList (first items mandatory)).contains e.1) = !mandatory.contains e.1 := by
    intro e he
    have hi : items.contains e.1 = true := Table.contains_iff.mpr (List.mem_map_of_mem he)
    rw [Bool.not_inj_iff, Bool.eq_iff_iff, Table.contains_iff, Table.keys, entries_ofList_first, map_fst_first,
      List.mem_filter, ← Table.contains_iff, hi]
    simp
  rw [names, items_ofItems, Table.keys, Table.entries_insertAllIfNew items.nodup, entries_ofList_first,
    List.map_append, map_fst_first, List.filter_congr hrest, Table.filter_keys items]

def completed (items mandatory : Table Item) : Table Item :=
  items.insertAllIfNew mandatory.entries

theorem value_addMandatory (items mandatory : Table Item) :
    (addMandatory items mandatory).value = .ok (completed items mandatory) := by
  unfold addMandatory completed Table.insertAllIfNew
  generalize mandatory.entries = entries
  induction entries generalizing items with
  | nil => rfl
  | cons e entries ih =>
    obtain ⟨name, item⟩ := e
    have hstep : (if items.contains name then return items else do
        notifyAdded name item
        return items.insert name item : Outcome (Table Item)).value = .ok (items.insertIfNew name item) := by
      rw [Table.insertIfNew]
      split <;> rfl
    rw [List.foldlM_cons, Traced.value_bind_ok _ hstep]
    exact ih _

theorem get?_completed (items mandatory : Table Item) (name : String) :
    (completed items mandatory).get? name = (items.get? name).or (mandatory.get? name) :=
  Table.get?_insertAllIfNew items mandatory.entries name

theorem keys_completed (items mandatory : Table Item) :
    (completed items mandatory).keys = items.keys ++ mandatory.keys.filter fun name => !items.contains name := by
  rw [completed, Table.keys, Table.entries_insertAllIfNew mandatory.nodup, List.map_append, Table.filter_keys]
  rfl

theorem contains_completed (items mandatory : Table Item) (name : String) :
    (completed items mandatory).contains name = (items.contains name || mandatory.contains name) := by
  rw [Table.contains, get?_completed, Option.isSome_or]
  rfl

def Agrees (items mandatory : Table Item) : Prop :=
  ∀ name expected item, mandatory.get? name = some expected → items.get? name = some item →
    item.units = expected.units ∧ item.kind = expected.kind

theorem conflict?_eq_none_iff {expected : Item} :
    conflict? items name expected = none ↔
      ∀ item, items.get? name = some item → item.units = expected.units ∧ item.kind = expected.kind := by
  unfold conflict?
  cases items.get? name with
  | none => simp
  | some item => simp

theorem findSome?_conflict?_eq_none_iff {items mandatory : Table Item} :
    (mandatory.entries.findSome? fun (name, expected) => conflict? items name expected) = none ↔
      Agrees items mandatory := by
  rw [List.findSome?_eq_none_iff]
  constructor
  · intro h name expected item hm hi
    exact conflict?_eq_none_iff.mp (h (name, expected) (Table.get?_eq_some_iff.mp hm)) item hi
  · rintro h ⟨name, expected⟩ hm
    exact conflict?_eq_none_iff.mpr fun item => h name expected item (Table.get?_eq_some_iff.mpr hm)

theorem check_eq_ok_iff {items mandatory : Table Item} :
    (check items mandatory).value = .ok () ↔ items.contains Item.reserved = false ∧ Agrees items mandatory := by
  unfold check
  cases hr : items.contains Item.reserved with
  | true =>
    rw [if_pos rfl]
    simp only [Bool.true_eq_false, false_and, iff_false]
    intro h
    cases h
  | false =>
    simp only [Bool.false_eq_true, if_false, true_and, ← findSome?_conflict?_eq_none_iff]
    cases mandatory.entries.findSome? fun (name, expected) => conflict? items name expected with
    | none => exact ⟨fun _ => rfl, fun _ => rfl⟩
    | some e =>
      constructor
      · intro h
        cases h
      · intro h
        cases h

theorem kind_of_conflict? {expected : Item} {e : Error} (h : conflict? items name expected = some e) :
    e.kind = .resourceType := by
  unfold conflict? at h
  split at h
  · cases h
  · split at h
    · cases h
      rfl
    · cases h

theorem failsAs_check (items mandatory : Table Item) :
    FailsAs (·.kind = .resourceType) (check items mandatory).value := by
  intro e h
  unfold check at h
  cases hr : items.contains Item.reserved with
  | true =>
    rw [hr] at h
    cases h
    rfl
  | false =>
    simp only [hr, Bool.false_eq_true, if_false] at h
    split at h
    · rename_i e' hf
      cases h
      obtain ⟨⟨name, expected⟩, -, he⟩ := List.exists_of_findSome?_eq_some hf
      exact kind_of_conflict? he
    · cases h

theorem agrees_completed_iff : Agrees (completed items mandatory) mandatory ↔ Agrees items mandatory := by
  constructor
  · intro h name expected item hm hi
    refine h name expected item hm ?_
    rw [get?_completed, hi]
    rfl
  · intro h name expected item hm hi
    rw [get?_completed] at hi
    cases hn : items.get? name with
    | some other =>
      rw [hn] at hi
      cases hi
      exact h name expected item hm hn
    | none =>
      rw [hn, Option.none_or, hm] at hi
      cases hi
      exact ⟨rfl, rfl⟩

theorem check_completed_eq_ok_iff (hr : mandatory.contains Item.reserved = false) :
    (check (completed items mandatory) mandatory).value = .ok () ↔ (check items mandatory).value = .ok () := by
  rw [check_eq_ok_iff, check_eq_ok_iff, contains_completed, hr, Bool.or_false, agrees_completed_iff]

/-- A catalog of some items with the mandatory ones: these come first and are as expected, then come the others; each
name has its own item and comes once, and no item has the reserved name. -/
structure Completes (cat : Catalog) (mandatory items : Table Item) : Prop where
  names : cat.names = mandatory.keys ++ items.keys.filter fun name => !mandatory.contains name
  once : cat.names.Nodup
  reserved : Item.reserved ∉ cat.names
  mandatory : ∀ name expected, mandatory.get? name = some expected →
    ∃ item, cat.get? name = some item ∧ item.units = expected.units ∧ item.kind = expected.kind
  items : ∀ name item, items.get? name = some item → cat.get? name = some item

theorem names_ofItems_completed (items mandatory : Table Item) :
    (ofItems (completed items mandatory) mandatory).names =
      mandatory.keys ++ items.keys.filter fun name => !mandatory.contains name := by
  have hall : ∀ name ∈ mandatory.keys, (completed items mandatory).contains name = true := by
    intro name hm
    rw [contains_completed, Table.contains_iff.mpr hm, Bool.or_true]
  have hnone : ((mandatory.keys.filter fun name => !items.contains name).filter fun name => !mandatory.contains name) =
      [] := by
    refine List.filter_eq_nil_iff.mpr fun name hm => ?_
    simp [Table.contains_iff.mpr (List.mem_filter.mp hm).1]
  rw [names_ofItems, List.filter_eq_self.mpr hall, keys_completed, List.filter_append, hnone, List.append_nil]

theorem completes_of_check (hr : mandatory.contains Item.reserved = false)
    (h : (check items mandatory).value = .ok ()) :
    Completes (ofItems (completed items mandatory) mandatory) mandatory items := by
  obtain ⟨hi, ha⟩ := check_eq_ok_iff.mp h
  refine ⟨names_ofItems_completed items mandatory, Table.nodup _, fun hm => ?_, fun name expected hm => ?_,
    fun name item hn => ?_⟩
  · rw [names_ofItems_completed, List.mem_append, ← Table.contains_iff, hr] at hm
    rcases hm with hm | hm
    · cases hm
    · have hi' := Table.contains_iff.mpr (List.mem_filter.mp hm).1
      cases hi.symm.trans hi'
  · have hg : (ofItems (completed items mandatory) mandatory).get? name = (items.get? name).or (some expected) := by
      rw [get?_ofItems, get?_completed, hm]
    cases hn : items.get? name with
    | none => exact ⟨expected, by rw [hg, hn, Option.none_or], rfl, rfl⟩
    | some item => exact ⟨item, by rw [hg, hn, Option.some_or], ha name expected item hm hn⟩
  · rw [get?_ofItems, get?_completed, hn, Option.some_or]

end Catalog
end ConfigLayers
