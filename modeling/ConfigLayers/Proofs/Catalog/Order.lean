import ConfigLayers.Proofs.Catalog.Items
import Mathlib.Data.List.Nodup

/-! The order of a catalog and the places of its names. A name is found at the one place where it stands. -/
namespace ConfigLayers
namespace Catalog

variable {c : Catalog} {names : List String} {name : String} {i : Nat} {e : Error}

theorem nodup_names (c : Catalog) : c.names.Nodup :=
  c.items.nodup

theorem mem_names_ofItems {items mandatory : Table Item} : name ∈ (ofItems items mandatory).names ↔ name ∈ items.keys := by
  rw [names, ← Table.contains_iff, ← Table.contains_iff, Table.contains, Table.contains, ← get?_ofItems items mandatory,
    get?]

/-- The place of each name, written down as one goes through them. -/
def places (names : List String) : Table Nat :=
  Table.ofList names.zipIdx

theorem get?_places (h : names.Nodup) : (places names).get? name = some i ↔ names[i]? = some name := by
  have hn : (names.zipIdx.map Prod.fst).Nodup := by rwa [List.zipIdx_map_fst]
  rw [Table.get?_eq_some_iff, places, Table.entries_ofList hn, List.mk_mem_zipIdx_iff_getElem?]

theorem index_eq_ok_iff : c.index name = .ok i ↔ c.names[i]? = some name := by
  have hfound : c.names.findIdx? (· == name) = some i ↔ c.names[i]? = some name := by
    rw [List.findIdx?_eq_some_iff_getElem, List.getElem?_eq_some_iff]
    constructor
    · rintro ⟨hi, he, -⟩
      exact ⟨hi, beq_iff_eq.mp he⟩
    · rintro ⟨hi, he⟩
      refine ⟨hi, beq_iff_eq.mpr he, fun j hj hother => ?_⟩
      have hsame : j = i := c.nodup_names.getElem_inj_iff.mp ((beq_iff_eq.mp hother).trans he.symm)
      omega
  rw [← hfound, index]
  cases c.names.findIdx? (· == name) <;> simp

theorem index_eq_error_iff : c.index name = .error e ↔ e = .unknownName ∧ name ∉ c.names := by
  unfold index
  cases hf : c.names.findIdx? (· == name) with
  | none =>
    have hn : name ∉ c.names := fun hm => by simpa using List.findIdx?_eq_none_iff.mp hf name hm
    simp [hn, eq_comm]
  | some i =>
    obtain ⟨hi, he, -⟩ := List.findIdx?_eq_some_iff_getElem.mp hf
    have hm : name ∈ c.names := beq_iff_eq.mp he ▸ List.getElem_mem hi
    simp [hm]

/-- The order of a catalog and its index tell the same. The mandatory names that are among the items come first, in the
order of the mandatory ones, then the others in their own order. So every name of an item is there once and keeps its
item. A name has an index exactly if it is that of an item, and then the place where the name stands in the order; any
other name is an unknown key. -/
theorem order_agrees_with_index (items mandatory : Table Item) :
    let c := ofItems items mandatory
    c.names = mandatory.keys.filter items.contains ++ items.keys.filter (fun name => !mandatory.contains name) ∧
      c.names.Nodup ∧ c.names.Perm items.keys ∧
      (∀ name, c.get? name = items.get? name) ∧
      (∀ name i, c.index name = .ok i ↔ c.names[i]? = some name) ∧
      (∀ name i, c.index name = .ok i ↔ (places c.names).get? name = some i) ∧
      (∀ name e, c.index name = .error e ↔ e = .unknownName ∧ name ∉ items.keys) ∧
      Error.unknownName.kind = .key := by
  intro c
  have hmem : ∀ name, name ∈ c.names ↔ name ∈ items.keys := fun _ => mem_names_ofItems
  refine ⟨names_ofItems items mandatory, c.nodup_names, ?_, get?_ofItems items mandatory, fun _ _ => index_eq_ok_iff,
    fun _ _ => ?_, fun name _ => ?_, rfl⟩
  · exact (List.perm_ext_iff_of_nodup c.nodup_names items.nodup).mpr hmem
  · rw [index_eq_ok_iff, get?_places c.nodup_names]
  · rw [index_eq_error_iff, hmem]

end Catalog
end ConfigLayers
