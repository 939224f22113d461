import ConfigLayers.Text.Blank
import Mathlib.Data.List.DropRight
import Mathlib.Data.List.TakeWhile

/-! Trimming takes the blanks off both ends and nothing else, so that trimming a second time changes nothing. -/
namespace ConfigLayers
namespace Text

theorem dropWhile_append_cons {p : Char → Bool} {c : Char} (h : p c = false) (before after : List Char) :
    (before ++ c :: after).dropWhile p = before.dropWhile p ++ c :: after := by
  induction before with
  | nil => simp [h]
  | cons c' before ih => cases hc : p c' <;> simp [hc, ih]

theorem dropBlanks_cons {c : Char} (h : isBlank c = false) (cs : List Char) : dropBlanks (c :: cs) = c :: cs := by
  simp [dropBlanks, h]

theorem dropBlanksEnd_cons {c : Char} (h : isBlank c = false) (cs : List Char) :
    dropBlanksEnd (c :: cs) = c :: dropBlanksEnd cs := by
  simp [dropBlanksEnd, dropWhile_append_cons h]

theorem dropBlanksEnd_dropBlanksEnd (cs : List Char) : dropBlanksEnd (dropBlanksEnd cs) = dropBlanksEnd cs :=
  List.rdropWhile_idempotent isBlank cs

theorem trimChars_trimChars (cs : List Char) : trimChars (trimChars cs) = trimChars cs := by
  induction cs with
  | nil => rfl
  | cons c cs ih =>
    cases hc : isBlank c with
    | true =>
      have ht : trimChars (c :: cs) = trimChars cs := by simp [trimChars, dropBlanks, hc]
      rw [ht, ih]
    | false =>
      have ht : trimChars (c :: cs) = c :: dropBlanksEnd cs := by
        rw [trimChars, dropBlanks_cons hc, dropBlanksEnd_cons hc]
      rw [ht, trimChars, dropBlanks_cons hc, dropBlanksEnd_cons hc, dropBlanksEnd_dropBlanksEnd]

theorem trimChars_append_cons {c : Char} (h : isBlank c = false) (before after : List Char) :
    trimChars (before ++ c :: after) = dropBlanks before ++ c :: dropBlanksEnd after := by
  rw [trimChars, dropBlanks, dropWhile_append_cons h, dropBlanksEnd, List.reverse_append, List.reverse_cons,
    List.append_assoc, List.singleton_append, dropWhile_append_cons h]
  simp [dropBlanks, dropBlanksEnd]

section

variable {before after : List Char}

theorem trimChars_between (hb : ∀ c ∈ before, isBlank c = true) (ha : ∀ c ∈ after, isBlank c = true) (cs : List Char) :
    trimChars (before ++ cs ++ after) = trimChars cs := by
  have hend : ∀ ds, dropBlanksEnd (ds ++ after) = dropBlanksEnd ds := by
    intro ds
    rw [dropBlanksEnd, List.reverse_append, List.dropWhile_append_of_pos fun c hc => ha c (List.mem_reverse.mp hc)]
    rfl
  have hafter : dropBlanks after = [] := List.dropWhile_eq_nil_iff.mpr ha
  rw [trimChars, dropBlanks, List.append_assoc, List.dropWhile_append_of_pos hb, List.dropWhile_append]
  cases hcs : cs.dropWhile isBlank with
  | nil =>
    have hempty : trimChars cs = [] := by rw [trimChars, dropBlanks, hcs]; rfl
    rw [hempty]
    exact congrArg dropBlanksEnd hafter
  | cons c ds =>
    have hkept : trimChars cs = dropBlanksEnd (c :: ds) := by rw [trimChars, dropBlanks, hcs]
    rw [hkept]
    exact hend (c :: ds)

end

theorem trimChars_dropBlanks (cs : List Char) : trimChars (dropBlanks cs) = trimChars cs := by
  rw [trimChars, dropBlanks, dropBlanks, List.dropWhile_idempotent]
  rfl

theorem trimChars_dropBlanksEnd (cs : List Char) : trimChars (dropBlanksEnd cs) = trimChars cs := by
  have hcs : dropBlanksEnd cs ++ (cs.reverse.takeWhile isBlank).reverse = cs := by
    rw [dropBlanksEnd, ← List.reverse_append, List.takeWhile_append_dropWhile, List.reverse_reverse]
  have hblank : ∀ c ∈ (cs.reverse.takeWhile isBlank).reverse, isBlank c = true :=
    fun c hc => List.mem_takeWhile_imp (List.mem_reverse.mp hc)
  conv_rhs => rw [← hcs]
  exact (trimChars_between (fun _ h => absurd h List.not_mem_nil) hblank _).symm

theorem exists_eq_trimChars (cs : List Char) :
    ∃ before after, (∀ c ∈ before, isBlank c = true) ∧ (∀ c ∈ after, isBlank c = true) ∧
      cs = before ++ trimChars cs ++ after := by
  refine ⟨cs.takeWhile isBlank, ((dropBlanks cs).reverse.takeWhile isBlank).reverse, ?_, ?_, ?_⟩
  · exact fun c hc => List.mem_takeWhile_imp hc
  · exact fun c hc => List.mem_takeWhile_imp (List.mem_reverse.mp hc)
  · have hend : trimChars cs ++ ((dropBlanks cs).reverse.takeWhile isBlank).reverse = dropBlanks cs := by
      rw [trimChars, dropBlanksEnd, ← List.reverse_append, List.takeWhile_append_dropWhile, List.reverse_reverse]
    rw [List.append_assoc, hend]
    exact List.takeWhile_append_dropWhile.symm

theorem trimChars_eq_nil_iff {cs : List Char} : trimChars cs = [] ↔ ∀ c ∈ cs, isBlank c = true := by
  constructor
  · intro h
    obtain ⟨before, after, hb, ha, hcs⟩ := exists_eq_trimChars cs
    rw [h] at hcs
    intro c hc
    rw [hcs, List.append_nil, List.mem_append] at hc
    exact hc.elim (hb c) (ha c)
  · intro h
    rw [trimChars, dropBlanks, List.dropWhile_eq_nil_iff.mpr h]
    rfl

theorem dropBlanks_eq_self_iff {cs : List Char} : dropBlanks cs = cs ↔ ∀ c ∈ cs.head?, isBlank c = false := by
  cases cs with
  | nil => simp [dropBlanks]
  | cons c cs =>
    constructor
    · rintro h d ⟨⟩
      rw [Bool.eq_false_iff]
      intro hblank
      have hlength := congrArg List.length h
      rw [dropBlanks, List.dropWhile_cons_of_pos hblank, List.length_cons] at hlength
      have hle := (List.dropWhile_sublist (p := isBlank) (l := cs)).length_le
      omega
    · exact fun h => dropBlanks_cons (h c rfl) cs

theorem mem_dropBlanks_iff {c : Char} (h : isBlank c = false) {cs : List Char} : c ∈ dropBlanks cs ↔ c ∈ cs := by
  refine ⟨fun hc => (List.dropWhile_sublist _).subset hc, fun hc => ?_⟩
  rw [← List.takeWhile_append_dropWhile (p := isBlank) (l := cs)] at hc
  rcases List.mem_append.mp hc with hc | hc
  · rw [List.mem_takeWhile_imp hc] at h
    cases h
  · exact hc

theorem dropBlanksEnd_eq_self {cs : List Char} (h : ∀ c ∈ cs, isBlank c = false) : dropBlanksEnd cs = cs := by
  have hreverse : dropBlanks cs.reverse = cs.reverse :=
    dropBlanks_eq_self_iff.mpr fun c hc => h c (List.mem_reverse.mp (List.mem_of_mem_head? hc))
  rw [dropBlanksEnd, ← dropBlanks, hreverse, List.reverse_reverse]

theorem trimChars_eq_self {cs : List Char} (h : ∀ c ∈ cs, isBlank c = false) : trimChars cs = cs := by
  have hfirst : dropBlanks cs = cs := dropBlanks_eq_self_iff.mpr fun c hc => h c (List.mem_of_mem_head? hc)
  rw [trimChars, hfirst, dropBlanksEnd_eq_self h]

theorem trimChars_of_ends {cs ds : List Char} (hcs : cs ≠ []) (hds : ds ≠ []) (hc : ∀ c ∈ cs, isBlank c = false)
    (hd : ∀ c ∈ ds, isBlank c = false) (ms : List Char) : trimChars (cs ++ ms ++ ds) = cs ++ ms ++ ds := by
  obtain ⟨a, cs, rfl⟩ := List.exists_cons_of_ne_nil hcs
  obtain ⟨ds, b, rfl⟩ := (List.eq_nil_or_concat' ds).resolve_left hds
  have ha : isBlank a = false := hc a List.mem_cons_self
  have hb : isBlank b = false := hd b (List.mem_append_right ds (List.mem_singleton_self b))
  have hend : dropBlanksEnd (cs ++ ms ++ (ds ++ [b])) = cs ++ ms ++ (ds ++ [b]) := by
    rw [dropBlanksEnd, ← List.append_assoc, List.reverse_append, List.reverse_singleton, List.singleton_append]
    simp [hb]
  rw [List.cons_append, List.cons_append, trimChars, dropBlanks_cons ha, dropBlanksEnd_cons ha, hend]

@[simp] theorem trim_trim (s : String) : trim (trim s) = trim s := by
  rw [trim, toList_trim, trimChars_trimChars]
  rfl

@[simp] theorem trim_empty : trim "" = "" := rfl

end Text
end ConfigLayers
