import ConfigLayers.Catalog.Configured
import ConfigLayers.Proofs.Catalog.Items
import ConfigLayers.Proofs.Traced
import Mathlib.Data.List.Nodup

/-! Catalogs from a store. One that names its items has each of them once, one of amounts has an item for each name
under the start; the mandatory items are added to both, and are as expected in both. Where everything can be read,
nothing but a clash of names or units is refused. -/
namespace ConfigLayers

namespace Store

variable {s : Store} {c : Context} {found : List (String × String)}

theorem nodup_pairs (s : Store) : (s.pairs.map Prod.fst).Nodup := by
  refine List.Nodup.sublist ?_ s.entries.nodup
  unfold pairs
  induction s.entries.entries with
  | nil => exact List.Sublist.refl _
  | cons x entries ih =>
    obtain ⟨name, e⟩ := x
    cases hv : e.value with
    | none =>
      simp only [List.filterMap_cons, hv, Option.map_none]
      exact ih.cons name
    | some value =>
      simp only [List.filterMap_cons, hv, Option.map_some]
      exact ih.cons_cons name

theorem sublist_expandPairs {pairs : List (String × String)} (h : (s.expandPairs c pairs).value = .ok found) :
    (found.map Prod.fst).Sublist (pairs.map Prod.fst) := by
  induction pairs generalizing found with
  | nil =>
    cases h
    exact List.Sublist.refl _
  | cons x pairs ih =>
    obtain ⟨name, value⟩ := x
    obtain ⟨value, -, h⟩ := Traced.value_bind_eq_ok_iff.mp h
    obtain ⟨others, ho, h⟩ := Traced.value_bind_eq_ok_iff.mp h
    cases h
    cases value with
    | none => exact (ih ho).cons name
    | some value => exact (ih ho).cons_cons name

theorem nodup_withStart {start : String} (h : (s.withStart c start).value = .ok found) :
    (found.map Prod.fst).Nodup := by
  obtain ⟨chosen, hc, h⟩ := Traced.value_bind_eq_ok_iff.mp h
  cases h
  have hs := sublist_expandPairs hc
  have hn : (chosen.map Prod.fst).Nodup :=
    ((nodup_pairs s).sublist (List.filter_sublist.map Prod.fst)).sublist hs
  have hstart : ∀ name ∈ chosen.map Prod.fst, start.toList <+: name.toList := by
    intro name hm
    obtain ⟨x, hx, rfl⟩ := List.mem_map.mp (hs.subset hm)
    exact List.isPrefixOf_iff_prefix.mp (List.mem_filter.mp hx).2
  have hf : (chosen.map fun x => (String.ofList (x.1.toList.drop start.toList.length), x.2)).map Prod.fst =
      (chosen.map Prod.fst).map fun name => String.ofList (name.toList.drop start.toList.length) := by
    simp
  change ((chosen.map fun x => (String.ofList (x.1.toList.drop start.toList.length), x.2)).map Prod.fst).Nodup
  rw [hf]
  refine List.Nodup.map_on (fun a ha b hb hab => ?_) hn
  obtain ⟨as, has⟩ := hstart a ha
  obtain ⟨bs, hbs⟩ := hstart b hb
  have hd : as = bs := by simpa [← has, ← hbs] using congrArg String.toList hab
  exact String.toList_inj.mp (by rw [← has, ← hbs, hd])

end Store

theorem exists_forall₂ {α β : Type} {R : α → β → Prop} {xs : List α} (h : ∀ x ∈ xs, ∃ y, R x y) :
    ∃ ys, List.Forall₂ R xs ys := by
  induction xs with
  | nil => exact ⟨[], .nil⟩
  | cons x xs ih =>
    obtain ⟨⟨y, hy⟩, h⟩ := List.forall_mem_cons.mp h
    obtain ⟨ys, hys⟩ := ih h
    exact ⟨y :: ys, .cons hy hys⟩

namespace Catalog

variable {s : Store} {c : Context} {mandatory items result : Table Item} {names : List String} {start : String}

section Reading

variable {α : Type} {nameOf : α → String} {read : α → Except Error Item} {xs : List α} {entries : List (String × Item)}

def Reads (nameOf : α → String) (read : α → Except Error Item) (x : α) (entry : String × Item) : Prop :=
  entry.1 = nameOf x ∧ read x = .ok entry.2

theorem map_fst_of_reads (h : List.Forall₂ (Reads nameOf read) xs entries) :
    entries.map Prod.fst = xs.map nameOf := by
  induction h with
  | nil => rfl
  | cons hr _ ih => rw [List.map_cons, List.map_cons, ih, hr.1]

theorem mem_iff_of_reads (h : List.Forall₂ (Reads nameOf read) xs entries) {name : String} {item : Item} :
    (name, item) ∈ entries ↔ ∃ x ∈ xs, nameOf x = name ∧ read x = .ok item := by
  induction h with
  | nil => simp
  | @cons x entry xs entries hr _ ih =>
    obtain ⟨first, item'⟩ := entry
    obtain ⟨hname, hitem⟩ := hr
    obtain rfl : first = nameOf x := hname
    rw [List.mem_cons, ih]
    constructor
    · rintro (he | ⟨x', hm, hx⟩)
      · cases he
        exact ⟨x, List.mem_cons_self, rfl, hitem⟩
      · exact ⟨x', List.mem_cons_of_mem _ hm, hx⟩
    · rintro ⟨x', hm, hname, hx⟩
      rcases List.mem_cons.mp hm with rfl | hm
      · cases hname
        cases hitem.symm.trans hx
        exact .inl rfl
      · exact .inr ⟨x', hm, hname, hx⟩

theorem table_of_reads (h : List.Forall₂ (Reads nameOf read) xs items.entries) :
    items.keys = xs.map nameOf ∧
      ∀ name item, items.get? name = some item ↔ ∃ x ∈ xs, nameOf x = name ∧ read x = .ok item := by
  refine ⟨map_fst_of_reads h, fun name item => ?_⟩
  rw [Table.get?_eq_some_iff, mem_iff_of_reads h]

theorem exists_reads (hn : (xs.map nameOf).Nodup) (hp : ∀ x ∈ xs, ∃ item, read x = .ok item) :
    ∃ items : Table Item, List.Forall₂ (Reads nameOf read) xs items.entries := by
  obtain ⟨entries, he⟩ : ∃ entries, List.Forall₂ (Reads nameOf read) xs entries := by
    refine exists_forall₂ fun x hx => ?_
    obtain ⟨item, hi⟩ := hp x hx
    exact ⟨(nameOf x, item), rfl, hi⟩
  exact ⟨⟨entries, (map_fst_of_reads he).symm ▸ hn⟩, he⟩

end Reading

def Describes (s : Store) (c : Context) : String → String × Item → Prop :=
  Reads id fun name => (describedItem s c name).value

theorem describedItems_eq_ok_iff :
    (describedItems s c items names).value = .ok result ↔
      (items.keys ++ names).Nodup ∧ ∃ entries, List.Forall₂ (Describes s c) names entries ∧
        result.entries = items.entries ++ entries := by
  induction names generalizing items with
  | nil =>
    rw [List.append_nil]
    constructor
    · intro h
      cases h
      exact ⟨Table.nodup _, [], .nil, (List.append_nil _).symm⟩
    · rintro ⟨-, entries, he, hr⟩
      cases he
      rw [List.append_nil] at hr
      exact congrArg Except.ok (Table.ext hr.symm)
  | cons name names ih =>
    have hnew : ∀ item, name ∉ items.keys → (items.insert name item).keys = items.keys ++ [name] := by
      intro item hn
      rw [Table.keys_insert, if_neg hn]
    rw [describedItems]
    constructor
    · intro h
      obtain ⟨item, hi, h⟩ := Traced.value_bind_eq_ok_iff.mp h
      split at h
      · cases h
      · rename_i hc
        have hn : name ∉ items.keys := fun hm => hc (Table.contains_iff.mpr hm)
        obtain ⟨hnodup, entries, he, hr⟩ := ih.mp h
        rw [hnew item hn, List.append_assoc] at hnodup
        rw [Table.entries_insert_of_new hn, List.append_assoc] at hr
        exact ⟨hnodup, (name, item) :: entries, .cons ⟨rfl, hi⟩ he, hr⟩
    · rintro ⟨hnodup, entries, he, hr⟩
      cases he with
      | @cons _ entry _ rest hd he =>
        obtain ⟨rfl, hi⟩ := hd
        have hn : entry.1 ∉ items.keys := by
          intro hm
          exact (List.nodup_append.mp hnodup).2.2 _ hm _ List.mem_cons_self rfl
        have hc : ¬ items.contains entry.1 = true := fun hm => hn (Table.contains_iff.mp hm)
        rw [Traced.value_bind_ok _ hi, if_neg hc]
        refine ih.mpr ⟨?_, rest, he, ?_⟩
        · rw [hnew entry.2 hn, List.append_assoc]
          exact hnodup
        · rw [Table.entries_insert_of_new hn, List.append_assoc]
          exact hr

theorem kind_of_describedItems {e : Error} (hp : ∀ name ∈ names, ∃ item, (describedItem s c name).value = .ok item)
    (h : (describedItems s c items names).value = .error e) : e.kind = .resourceType := by
  induction names generalizing items with
  | nil => cases h
  | cons name names ih =>
    obtain ⟨⟨item, hi⟩, hp⟩ := List.forall_mem_cons.mp hp
    rw [describedItems, Traced.value_bind_ok _ hi] at h
    split at h
    · cases h
      rfl
    · exact ih hp h

theorem ofStore_eq_ok_iff {cat : Catalog} :
    (ofStore s c mandatory).value = .ok cat ↔
      ∃ names items, (s.getTrimmedItems c itemsName []).value = .ok names ∧
        (describedItems s c ∅ names).value = .ok items ∧ (check items mandatory).value = .ok () ∧
        cat = ofItems (completed items mandatory) mandatory := by
  unfold ofStore
  simp only [Traced.value_bind_eq_ok_iff, value_addMandatory]
  constructor
  · rintro ⟨names, hn, items, hi, ⟨⟩, hc, _, ⟨⟩, h⟩
    cases h
    exact ⟨names, items, hn, hi, hc, rfl⟩
  · rintro ⟨names, items, hn, hi, hc, rfl⟩
    exact ⟨names, hn, items, hi, (), hc, _, rfl, rfl⟩

def IsAmount (mandatory : Table Item) (start : String) : String × String → String × Item → Prop :=
  Reads Prod.fst fun amount => amountItem mandatory start amount.1 amount.2

theorem amountItems_eq_ok_iff {amounts : List (String × String)} (hn : (items.keys ++ amounts.map Prod.fst).Nodup) :
    amountItems mandatory start items amounts = .ok result ↔
      ∃ entries, List.Forall₂ (IsAmount mandatory start) amounts entries ∧
        result.entries = items.entries ++ entries := by
  induction amounts generalizing items with
  | nil =>
    constructor
    · intro h
      cases h
      exact ⟨[], .nil, (List.append_nil _).symm⟩
    · rintro ⟨entries, he, hr⟩
      cases he
      rw [List.append_nil] at hr
      exact congrArg Except.ok (Table.ext hr.symm)
  | cons amount amounts ih =>
    obtain ⟨name, value⟩ := amount
    have hnew : name ∉ items.keys := fun hm => (List.nodup_append.mp hn).2.2 _ hm _ List.mem_cons_self rfl
    have hkeys : ∀ item, ((items.insert name item).keys ++ amounts.map Prod.fst).Nodup := by
      intro item
      rw [Table.keys_insert, if_neg hnew, List.append_assoc]
      exact hn
    rw [amountItems]
    constructor
    · intro h
      obtain ⟨item, hi, h⟩ := exists_of_bind_eq_ok h
      obtain ⟨entries, he, hr⟩ := (ih (hkeys item)).mp h
      rw [Table.entries_insert_of_new hnew, List.append_assoc] at hr
      exact ⟨(name, item) :: entries, .cons ⟨rfl, hi⟩ he, hr⟩
    · rintro ⟨entries, he, hr⟩
      cases he with
      | @cons _ entry _ rest hd he =>
        obtain ⟨hname, hi⟩ := hd
        obtain ⟨name', item⟩ := entry
        obtain rfl : name' = name := hname
        rw [show amountItem mandatory start name' value = .ok item from hi]
        refine (ih (hkeys item)).mpr ⟨rest, he, ?_⟩
        rw [Table.entries_insert_of_new hnew, List.append_assoc]
        exact hr

theorem amountItem_eq_ok_iff {name value : String} {item : Item} :
    amountItem mandatory start name value = .ok item ↔
      ∃ amount units, Item.amount value (some (start ++ name)) = .ok (amount, units) ∧
        item =
          { Item.unbounded name (if units == "" then ((mandatory.get? name).map Item.units).getD "" else units) with
            value := amount } := by
  unfold amountItem
  cases Item.amount value (some (start ++ name)) with
  | error e =>
    constructor
    · intro h
      cases h
    · rintro ⟨_, _, h, -⟩
      cases h
  | ok x =>
    constructor
    · intro h
      cases h
      exact ⟨x.1, x.2, rfl, rfl⟩
    · rintro ⟨_, _, h, rfl⟩
      cases h
      rfl

theorem ofAmounts_eq_ok_iff {cat : Catalog} :
    (ofAmounts s c start mandatory).value = .ok cat ↔
      ∃ amounts items, (s.withStart c start).value = .ok amounts ∧
        amountItems mandatory start ∅ (amounts.mergeSort byName) = .ok items ∧
        (check (completed items mandatory) mandatory).value = .ok () ∧
        cat = ofItems (completed items mandatory) mandatory := by
  unfold ofAmounts
  simp only [Traced.value_bind_eq_ok_iff, value_addMandatory, Traced.value_ofExcept]
  constructor
  · rintro ⟨amounts, ha, items, hi, _, ⟨⟩, ⟨⟩, hc, h⟩
    cases h
    exact ⟨amounts, items, ha, hi, hc, rfl⟩
  · rintro ⟨amounts, items, ha, hi, hc, rfl⟩
    exact ⟨amounts, ha, items, hi, _, rfl, (), hc, rfl⟩

theorem describedItems_empty_eq_ok_iff :
    (describedItems s c ∅ names).value = .ok items ↔
      names.Nodup ∧ List.Forall₂ (Describes s c) names items.entries := by
  rw [describedItems_eq_ok_iff]
  refine and_congr_right fun _ => ⟨?_, fun he => ⟨items.entries, he, rfl⟩⟩
  rintro ⟨entries, he, hr⟩
  have hr : items.entries = entries := hr
  exact hr ▸ he

theorem described_ok (h : List.Forall₂ (Describes s c) names items.entries) :
    items.keys = names ∧
      ∀ name item, items.get? name = some item ↔ name ∈ names ∧ (describedItem s c name).value = .ok item := by
  obtain ⟨hkeys, hget⟩ := table_of_reads h
  refine ⟨by rw [hkeys, List.map_id], fun name item => ?_⟩
  rw [hget]
  constructor
  · rintro ⟨_, hm, rfl, hv⟩
    exact ⟨hm, hv⟩
  · rintro ⟨hm, hv⟩
    exact ⟨name, hm, rfl, hv⟩

theorem amountItems_empty_eq_ok_iff {amounts : List (String × String)} (hn : (amounts.map Prod.fst).Nodup) :
    amountItems mandatory start ∅ amounts = .ok items ↔
      List.Forall₂ (IsAmount mandatory start) amounts items.entries := by
  have hn : ((∅ : Table Item).keys ++ amounts.map Prod.fst).Nodup := hn
  rw [amountItems_eq_ok_iff hn]
  constructor
  · rintro ⟨entries, he, hr⟩
    have hr : items.entries = entries := hr
    exact hr ▸ he
  · intro he
    exact ⟨items.entries, he, rfl⟩

theorem amounts_ok {amounts : List (String × String)}
    (h : List.Forall₂ (IsAmount mandatory start) amounts items.entries) :
    items.keys = amounts.map Prod.fst ∧ ∀ name item, items.get? name = some item ↔
      ∃ value, (name, value) ∈ amounts ∧ amountItem mandatory start name value = .ok item := by
  obtain ⟨hkeys, hget⟩ := table_of_reads h
  refine ⟨hkeys, fun name item => ?_⟩
  rw [hget]
  constructor
  · rintro ⟨⟨_, value⟩, hm, rfl, hv⟩
    exact ⟨value, hm, hv⟩
  · rintro ⟨value, hm, hv⟩
    exact ⟨(name, value), hm, rfl, hv⟩

/-- Where all items can be read, a store's catalog is refused exactly for a name that comes twice, the reserved name, or
a mandatory name with other units or of another kind. -/
theorem ofStore_cases (mandatory : Table Item) (hn : (s.getTrimmedItems c itemsName []).value = .ok names)
    (hp : ∀ name ∈ names, ∃ item, (describedItem s c name).value = .ok item) :
    FailsAs (·.kind = .resourceType) (ofStore s c mandatory).value ∧
      ((∃ cat, (ofStore s c mandatory).value = .ok cat) ↔ names.Nodup ∧ Item.reserved ∉ names ∧
        ∀ name expected item, mandatory.get? name = some expected → name ∈ names →
          (describedItem s c name).value = .ok item → item.units = expected.units ∧ item.kind = expected.kind) := by
  constructor
  · rw [ofStore, Traced.value_bind_ok _ hn, Traced.value_bind]
    refine FailsAs.bind (fun e he => kind_of_describedItems hp he) fun items _ => ?_
    rw [Traced.value_bind]
    refine FailsAs.bind (failsAs_check items mandatory) fun _ _ => ?_
    rw [Traced.value_bind_ok _ (value_addMandatory items mandatory)]
    exact failsAs_ok _
  · constructor
    · rintro ⟨cat, h⟩
      obtain ⟨names', items, hn', hi, hc, -⟩ := ofStore_eq_ok_iff.mp h
      cases hn.symm.trans hn'
      obtain ⟨hkeys, hget⟩ := described_ok (describedItems_empty_eq_ok_iff.mp hi).2
      obtain ⟨hr, ha⟩ := check_eq_ok_iff.mp hc
      refine ⟨hkeys ▸ items.nodup, fun hm => ?_, fun name expected item hm hname hv => ?_⟩
      · rw [← hkeys, ← Table.contains_iff, hr] at hm
        cases hm
      · exact ha name expected item hm ((hget name item).mpr ⟨hname, hv⟩)
    · rintro ⟨hnodup, hr, ha⟩
      obtain ⟨items, he⟩ : ∃ items : Table Item, List.Forall₂ (Describes s c) names items.entries :=
        exists_reads (by rwa [List.map_id]) hp
      have hi : (describedItems s c ∅ names).value = .ok items := describedItems_empty_eq_ok_iff.mpr ⟨hnodup, he⟩
      obtain ⟨hkeys, hget⟩ := described_ok he
      refine ⟨_, ofStore_eq_ok_iff.mpr ⟨names, _, hn, hi, check_eq_ok_iff.mpr ⟨?_, ?_⟩, rfl⟩⟩
      · rw [← Bool.not_eq_true, Table.contains_iff, hkeys]
        exact hr
      · intro name expected item hm hv
        obtain ⟨hname, hd⟩ := (hget name item).mp hv
        exact ha name expected item hm hname hd

/-- An amount without units has those of the mandatory item, so only units of its own can differ from them. -/
theorem agrees_amounts_iff {amounts : List (String × String)}
    (h : List.Forall₂ (IsAmount mandatory start) amounts items.entries) :
    Agrees items mandatory ↔ ∀ name value amount units expected, (name, value) ∈ amounts →
      Item.amount value (some (start ++ name)) = .ok (amount, units) → mandatory.get? name = some expected →
        units = "" ∨ units = expected.units := by
  obtain ⟨-, hget⟩ := amounts_ok h
  constructor
  · intro hagrees name value amount units expected hm hv hmandatory
    have hitem := (hget name _).mpr ⟨value, hm, amountItem_eq_ok_iff.mpr ⟨amount, units, hv, rfl⟩⟩
    obtain ⟨hunits, -⟩ := hagrees name expected _ hmandatory hitem
    by_cases hu : units = ""
    · exact .inl hu
    · exact .inr (by simpa [Item.unbounded, hu] using hunits)
  · intro hunits name expected item hmandatory hitem
    obtain ⟨value, hm, hamount⟩ := (hget name item).mp hitem
    obtain ⟨amount, units, hv, rfl⟩ := amountItem_eq_ok_iff.mp hamount
    have hkind : ItemKind.countable = expected.kind := by
      cases expected.kind
      rfl
    refine ⟨?_, hkind⟩
    rcases hunits name value amount units expected hm hv hmandatory with hu | hu
    · simp [Item.unbounded, hu, hmandatory]
    · simp [Item.unbounded, hu, hmandatory]

/-- Where all amounts can be read, a catalog of them is refused exactly for the reserved name, or for a mandatory name
with an amount in other units. -/
theorem ofAmounts_cases {amounts : List (String × String)} (hr : mandatory.contains Item.reserved = false)
    (ha : (s.withStart c start).value = .ok amounts)
    (hp : ∀ x ∈ amounts, ∃ amount, Item.amount x.2 (some (start ++ x.1)) = .ok amount) :
    FailsAs (·.kind = .resourceType) (ofAmounts s c start mandatory).value ∧
      ((∃ cat, (ofAmounts s c start mandatory).value = .ok cat) ↔ Item.reserved ∉ amounts.map Prod.fst ∧
        ∀ name value amount units expected, (name, value) ∈ amounts →
          Item.amount value (some (start ++ name)) = .ok (amount, units) → mandatory.get? name = some expected →
            units = "" ∨ units = expected.units) := by
  have hperm := amounts.mergeSort_perm byName
  have hsorted : ((amounts.mergeSort byName).map Prod.fst).Nodup :=
    (hperm.map Prod.fst).nodup_iff.mpr (Store.nodup_withStart ha)
  obtain ⟨items, he⟩ :
      ∃ items : Table Item, List.Forall₂ (IsAmount mandatory start) (amounts.mergeSort byName) items.entries := by
    refine exists_reads hsorted fun x hx => ?_
    obtain ⟨⟨amount, units⟩, hx⟩ := hp x (hperm.mem_iff.mp hx)
    exact ⟨_, amountItem_eq_ok_iff.mpr ⟨amount, units, hx, rfl⟩⟩
  have hi : amountItems mandatory start ∅ (amounts.mergeSort byName) = .ok items :=
    (amountItems_empty_eq_ok_iff hsorted).mpr he
  constructor
  · rw [ofAmounts, Traced.value_bind_ok _ ha, Traced.value_bind_ok _ ((Traced.value_ofExcept _).trans hi),
      Traced.value_bind_ok _ (value_addMandatory _ mandatory), Traced.value_bind]
    exact FailsAs.bind (failsAs_check _ mandatory) fun _ _ => failsAs_ok _
  · have hc : (∃ cat, (ofAmounts s c start mandatory).value = .ok cat) ↔
        (check items mandatory).value = .ok () := by
      rw [← check_completed_eq_ok_iff hr]
      constructor
      · rintro ⟨cat, h⟩
        obtain ⟨amounts', items, ha', hi', hc, -⟩ := ofAmounts_eq_ok_iff.mp h
        cases ha.symm.trans ha'
        cases hi.symm.trans hi'
        exact hc
      · intro hc
        exact ⟨_, ofAmounts_eq_ok_iff.mpr ⟨amounts, _, ha, hi, hc, rfl⟩⟩
    have hreserved : Item.reserved ∈ (amounts.mergeSort byName).map Prod.fst ↔ Item.reserved ∈ amounts.map Prod.fst :=
      (hperm.map Prod.fst).mem_iff
    rw [hc, check_eq_ok_iff, ← Bool.not_eq_true, Table.contains_iff, (amounts_ok he).1, hreserved,
      agrees_amounts_iff he]
    simp only [hperm.mem_iff]

/-- A catalog from a store is complete and well formed: the mandatory items as expected in front, and behind them the
other items that the store names, or has amounts of, each once. Where all items or amounts can be read there is one,
unless a name comes twice, the reserved name is among them, or a mandatory name has other units or another kind. -/
theorem catalogs_from_store (s : Store) (c : Context) (start : String) (mandatory : Table Item)
    (hr : mandatory.contains Item.reserved = false) :
    (∀ cat, (ofStore s c mandatory).value = .ok cat →
      ∃ names items, (s.getTrimmedItems c itemsName []).value = .ok names ∧ items.keys = names ∧
        (∀ name item, items.get? name = some item ↔ name ∈ names ∧ (describedItem s c name).value = .ok item) ∧
        Completes cat mandatory items) ∧
    (∀ cat, (ofAmounts s c start mandatory).value = .ok cat →
      ∃ amounts items, (s.withStart c start).value = .ok amounts ∧
        items.keys = (amounts.mergeSort byName).map Prod.fst ∧
        (∀ name item, items.get? name = some item ↔
          ∃ value, (name, value) ∈ amounts ∧ amountItem mandatory start name value = .ok item) ∧
        Completes cat mandatory items) ∧
    (∀ names, (s.getTrimmedItems c itemsName []).value = .ok names →
      (∀ name ∈ names, ∃ item, (describedItem s c name).value = .ok item) →
      ((∃ cat, (ofStore s c mandatory).value = .ok cat) ∨
        ∃ e, (ofStore s c mandatory).value = .error e ∧ e.kind = .resourceType) ∧
      ((∃ e, (ofStore s c mandatory).value = .error e ∧ e.kind = .resourceType) ↔
        ¬ names.Nodup ∨ Item.reserved ∈ names ∨ ∃ name expected item, mandatory.get? name = some expected ∧
          name ∈ names ∧ (describedItem s c name).value = .ok item ∧
          (item.units ≠ expected.units ∨ item.kind ≠ expected.kind))) ∧
    (∀ amounts, (s.withStart c start).value = .ok amounts →
      (∀ x ∈ amounts, ∃ amount, Item.amount x.2 (some (start ++ x.1)) = .ok amount) →
      ((∃ cat, (ofAmounts s c start mandatory).value = .ok cat) ∨
        ∃ e, (ofAmounts s c start mandatory).value = .error e ∧ e.kind = .resourceType) ∧
      ((∃ e, (ofAmounts s c start mandatory).value = .error e ∧ e.kind = .resourceType) ↔
        Item.reserved ∈ amounts.map Prod.fst ∨ ∃ name value amount units expected, (name, value) ∈ amounts ∧
          Item.amount value (some (start ++ name)) = .ok (amount, units) ∧ mandatory.get? name = some expected ∧
          units ≠ "" ∧ units ≠ expected.units)) := by
  refine ⟨fun cat h => ?_, fun cat h => ?_, fun names hn hp => ?_, fun amounts ha hp => ?_⟩
  · obtain ⟨names, items, hn, hi, hc, rfl⟩ := ofStore_eq_ok_iff.mp h
    obtain ⟨hkeys, hget⟩ := described_ok (describedItems_empty_eq_ok_iff.mp hi).2
    exact ⟨names, items, hn, hkeys, hget, completes_of_check hr hc⟩
  · obtain ⟨amounts, items, ha, hi, hc, rfl⟩ := ofAmounts_eq_ok_iff.mp h
    have hperm := amounts.mergeSort_perm byName
    have hsorted : ((amounts.mergeSort byName).map Prod.fst).Nodup :=
      (hperm.map Prod.fst).nodup_iff.mpr (Store.nodup_withStart ha)
    obtain ⟨hkeys, hget⟩ := amounts_ok ((amountItems_empty_eq_ok_iff hsorted).mp hi)
    refine ⟨amounts, items, ha, hkeys, fun name item => ?_,
      completes_of_check hr ((check_completed_eq_ok_iff hr).mp hc)⟩
    simp only [hget, hperm.mem_iff]
  · obtain ⟨hfails, hok⟩ := ofStore_cases mandatory hn hp
    rw [hfails.exists_error_iff]
    refine ⟨Classical.em _, ?_⟩
    rw [hok]
    simp only [not_and_or, not_not, not_forall, exists_prop, ne_eq]
  · obtain ⟨hfails, hok⟩ := ofAmounts_cases hr ha hp
    rw [hfails.exists_error_iff]
    refine ⟨Classical.em _, ?_⟩
    rw [hok]
    simp only [not_and_or, not_or, not_not, not_forall, exists_prop, ne_eq]

theorem catalogs_from_store_standard :
    let entry (value : String) : Entry := ⟨some value, []⟩
    let s := { Store.empty (.fixed ∅) with entries := .ofList [(itemsName, entry "gpu, memory-mb"),
      ("resource-types.memory-mb.units", entry "Mi"), ("node.gpu", entry "4"), ("node.memory", entry "2 G")] }
    let c : Context := ⟨.empty, ⟨⟨Path.parse "/", []⟩, ∅, ∅, 0⟩⟩
    Item.standard.contains Item.reserved = false ∧
      (∃ cat items, (ofStore s c Item.standard).value = .ok cat ∧ cat.names = ["memory-mb", "vcores", "gpu"] ∧
        Completes cat Item.standard items) ∧
      ∃ e, (ofAmounts s c "node." Item.standard).value = .error e ∧ e.kind = .resourceType := by
  intro entry s c
  have hr : Item.standard.contains Item.reserved = false := by decide
  obtain ⟨hcomplete, -, -, hamounts⟩ := catalogs_from_store s c "node." Item.standard hr
  refine ⟨hr, ?_, ?_⟩
  · have hnames : (ofStore s c Item.standard).value.toOption.map Catalog.names =
        some ["memory-mb", "vcores", "gpu"] := by decide +kernel
    obtain ⟨cat, hcat, hnames⟩ := Option.map_eq_some_iff.mp hnames
    have hcat := Traced.eq_ok_of_toOption hcat
    obtain ⟨-, items, -, -, -, hcompletes⟩ := hcomplete cat hcat
    exact ⟨cat, items, hcat, hnames, hcompletes⟩
  · have ha : (s.withStart c "node.").value = .ok [("gpu", "4"), ("memory", "2 G")] :=
      Traced.eq_ok_of_toOption (by decide +kernel)
    have hgpu : Item.amount "4" (some "node.gpu") = .ok (4, "") :=
      Traced.eq_ok_of_toOption (by decide +kernel)
    have hmemory : Item.amount "2 G" (some "node.memory") = .ok (2, "G") :=
      Traced.eq_ok_of_toOption (by decide +kernel)
    refine (hamounts _ ha ?_).2.mpr (.inl (by decide))
    simp only [List.forall_mem_cons]
    exact ⟨⟨_, hgpu⟩, ⟨_, hmemory⟩, by simp⟩

end Catalog
end ConfigLayers
