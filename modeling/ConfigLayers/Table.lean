/-! Tables from names to values that keep the order in which names came in. A name that is written again
keeps its place. -/
namespace ConfigLayers

namespace Table

variable {α β : Type}

/-- Writes the value in the name's place, or at the end when the name is new. -/
def put (name : String) (value : α) : List (String × α) → List (String × α)
  | [] => [(name, value)]
  | entry :: rest => if entry.1 = name then (name, value) :: rest else entry :: put name value rest

theorem map_fst_put (name : String) (value : α) (l : List (String × α)) :
    (put name value l).map Prod.fst =
      if name ∈ l.map Prod.fst then l.map Prod.fst else l.map Prod.fst ++ [name] := by
  induction l with
  | nil => simp [put]
  | cons entry rest ih =>
    by_cases h : entry.1 = name
    · simp [put, h]
    · have h' : name ≠ entry.1 := fun e => h e.symm
      by_cases hm : name ∈ rest.map Prod.fst <;> simp_all [put]

theorem put_of_not_mem {name : String} {l : List (String × α)} (h : name ∉ l.map Prod.fst) (value : α) :
    put name value l = l ++ [(name, value)] := by
  induction l with
  | nil => rfl
  | cons entry rest ih =>
    obtain ⟨hn, hr⟩ := not_or.mp (fun e => h (List.mem_cons.mpr e))
    have hn : entry.1 ≠ name := fun e => hn e.symm
    rw [put, if_neg hn, ih hr, List.cons_append]

theorem nodup_put {name : String} {value : α} {l : List (String × α)} (h : (l.map Prod.fst).Nodup) :
    ((put name value l).map Prod.fst).Nodup := by
  rw [map_fst_put]
  split
  · exact h
  · rename_i hm
    exact List.nodup_append.2 ⟨h, by simp, fun a ha b hb => by
      simp only [List.mem_singleton] at hb
      exact fun e => hm (hb ▸ e ▸ ha)⟩

theorem nodup_filter {p : String × α → Bool} {l : List (String × α)} (h : (l.map Prod.fst).Nodup) :
    ((l.filter p).map Prod.fst).Nodup :=
  List.Nodup.sublist (List.Sublist.map _ List.filter_sublist) h

/-- The value of the first entry with the name. -/
def find (name : String) : List (String × α) → Option α
  | [] => none
  | entry :: rest => if entry.1 = name then some entry.2 else find name rest

theorem find_put (name other : String) (value : α) (l : List (String × α)) :
    find other (put name value l) = if other = name then some value else find other l := by
  induction l with
  | nil => simp [put, find, eq_comm]
  | cons entry rest ih =>
    by_cases h : entry.1 = name
    · by_cases ho : other = name <;> simp_all [put, find, eq_comm]
    · by_cases ho : entry.1 = other
      · simp_all [put, find]
      · simp [put, find, h, ho, ih]

theorem find_filter (p : String → Bool) (name : String) (l : List (String × α)) :
    find name (l.filter fun e => p e.1) = if p name then find name l else none := by
  induction l with
  | nil => simp [find]
  | cons entry rest ih =>
    by_cases hk : entry.1 = name
    · cases hp : p name <;> simp_all [List.filter, find]
    · cases hp : p entry.1 <;> simp [List.filter, find, hp, hk, ih]

theorem find_of_mem {name : String} {value : α} {l : List (String × α)} (h : (l.map Prod.fst).Nodup)
    (hm : (name, value) ∈ l) : find name l = some value := by
  induction l with
  | nil => cases hm
  | cons entry rest ih =>
    obtain ⟨hn, hr⟩ := List.nodup_cons.mp h
    rcases List.mem_cons.mp hm with rfl | hm
    · simp [find]
    · have hne : entry.1 ≠ name := fun e => hn (e ▸ List.mem_map_of_mem hm)
      simpa [find, hne] using ih hr hm

theorem find_isSome_iff {name : String} {l : List (String × α)} :
    (find name l).isSome ↔ name ∈ l.map Prod.fst := by
  induction l with
  | nil => simp [find]
  | cons entry rest ih =>
    by_cases h : entry.1 = name
    · simp [find, h]
    · have h' : name ≠ entry.1 := fun e => h e.symm
      simp only [find, h, if_false, List.map_cons, List.mem_cons, h', false_or]
      exact ih

end Table

/-- Values by name in order of first entry, each name once. -/
structure Table (α : Type) where
  entries : List (String × α)
  nodup : (entries.map Prod.fst).Nodup

namespace Table

variable {α β : Type}

@[ext] theorem ext {s t : Table α} (h : s.entries = t.entries) : s = t := by
  cases s; cases t; cases h; rfl

instance [DecidableEq α] : DecidableEq (Table α) := fun s t =>
  if h : s.entries = t.entries then .isTrue (ext h) else .isFalse fun e => h (e ▸ rfl)

def empty : Table α :=
  ⟨[], List.nodup_nil⟩

instance : EmptyCollection (Table α) := ⟨empty⟩

instance : Inhabited (Table α) := ⟨empty⟩

def keys (t : Table α) : List String :=
  t.entries.map Prod.fst

def size (t : Table α) : Nat :=
  t.entries.length

def get? (t : Table α) (name : String) : Option α :=
  find name t.entries

def contains (t : Table α) (name : String) : Bool :=
  (t.get? name).isSome

def insert (t : Table α) (name : String) (value : α) : Table α :=
  ⟨put name value t.entries, nodup_put t.nodup⟩

/-- Keeps the value that is there. -/
def insertIfNew (t : Table α) (name : String) (value : α) : Table α :=
  if t.contains name then t else t.insert name value

def filter (p : String → α → Bool) (t : Table α) : Table α :=
  ⟨t.entries.filter fun e => p e.1 e.2, nodup_filter t.nodup⟩

def erase (t : Table α) (name : String) : Table α :=
  t.filter fun key _ => key != name

def map (f : α → β) (t : Table α) : Table β :=
  ⟨t.entries.map fun e => (e.1, f e.2), by
    have h : (fun e : String × α => (e.1, f e.2).1) = Prod.fst := rfl
    rw [List.map_map]
    exact h ▸ t.nodup⟩

def insertAll (t : Table α) (entries : List (String × α)) : Table α :=
  entries.foldl (fun t e => t.insert e.1 e.2) t

def ofList (entries : List (String × α)) : Table α :=
  insertAll ∅ entries

@[simp] theorem get?_empty (name : String) : (∅ : Table α).get? name = none := rfl

@[simp] theorem get?_insert (t : Table α) (name other : String) (value : α) :
    (t.insert name value).get? other = if other = name then some value else t.get? other :=
  find_put name other value t.entries

theorem keys_insert (t : Table α) (name : String) (value : α) :
    (t.insert name value).keys = if name ∈ t.keys then t.keys else t.keys ++ [name] :=
  map_fst_put name value t.entries

theorem get?_filter_key (t : Table α) (p : String → Bool) (name : String) :
    (t.filter fun key _ => p key).get? name = if p name then t.get? name else none :=
  find_filter p name t.entries

theorem contains_iff {t : Table α} {name : String} : t.contains name ↔ name ∈ t.keys :=
  find_isSome_iff

@[simp] theorem get?_erase (t : Table α) (name other : String) :
    (t.erase name).get? other = if other = name then none else t.get? other := by
  rw [erase, get?_filter_key]
  by_cases h : other = name <;> simp [h]

theorem get?_foldl_insert {entries : List (String × α)} (h : (entries.map Prod.fst).Nodup) (t : Table α)
    (name : String) : (insertAll t entries).get? name = (find name entries).or (t.get? name) := by
  induction entries generalizing t with
  | nil => rfl
  | cons entry rest ih =>
    obtain ⟨hn, hr⟩ := List.nodup_cons.mp h
    have hh := ih hr (t.insert entry.1 entry.2)
    by_cases he : entry.1 = name
    · have hf : find name rest = none := by
        rw [← Option.not_isSome_iff_eq_none, find_isSome_iff, ← he]
        exact hn
      rw [insertAll, List.foldl_cons, ← insertAll, hh, hf]
      simp [find, he]
    · have he' : name ≠ entry.1 := fun e => he e.symm
      rw [insertAll, List.foldl_cons, ← insertAll, hh]
      simp [find, he, he']

theorem get?_insertAll (t u : Table α) (name : String) :
    (t.insertAll u.entries).get? name = (u.get? name).or (t.get? name) :=
  get?_foldl_insert u.nodup t name

end Table
end ConfigLayers
