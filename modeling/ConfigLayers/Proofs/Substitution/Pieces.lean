import ConfigLayers.Substitution

/-! The pieces of a text: put together they are the text again, and the references among them are exactly
the parts of the text that are written as references. -/
namespace ConfigLayers
namespace Substitution

/-- What can stand between the braces of a reference. -/
def IsName (name : List Char) : Prop :=
  name ≠ [] ∧ ∀ c ∈ name, isNameChar c

def textOf (ps : List Piece) : List Char :=
  ps.flatMap Piece.text

@[simp] theorem textOf_nil : textOf [] = [] := rfl

@[simp] theorem textOf_char (c : Char) (ps : List Piece) : textOf (.char c :: ps) = c :: textOf ps := rfl

@[simp] theorem textOf_reference (name : List Char) (ps : List Piece) :
    textOf (.reference name :: ps) = written name ++ textOf ps := rfl

theorem notMem_of_isName {name : List Char} (h : IsName name) {c : Char} (hc : isNameChar c = false) :
    c ∉ name := by
  intro hm
  have hh := h.2 c hm
  simp [hc] at hh

theorem reference?_name {name : List Char} (h : IsName name) (rest : List Char) :
    reference? (name ++ '\x7d' :: rest) = some (name, rest) := by
  have ht : (name ++ '\x7d' :: rest).takeWhile isNameChar = name := by
    rw [List.takeWhile_append_of_pos h.2, List.takeWhile_cons_of_neg (by decide), List.append_nil]
  have hd : (name ++ '\x7d' :: rest).dropWhile isNameChar = '\x7d' :: rest := by
    rw [List.dropWhile_append_of_pos h.2, List.dropWhile_cons_of_neg (by decide)]
  obtain ⟨c, cs, rfl⟩ := List.exists_cons_of_ne_nil h.1
  unfold reference?
  rw [ht, hd]
  rfl

theorem reference?_eq_some_iff {cs name rest : List Char} :
    reference? cs = some (name, rest) ↔ IsName name ∧ cs = name ++ '\x7d' :: rest := by
  constructor
  · intro h
    unfold reference? at h
    split at h
    · rename_i c n r ht hd
      simp only [Option.some.injEq, Prod.mk.injEq] at h
      obtain ⟨rfl, rfl⟩ := h
      refine ⟨⟨by simp, fun a ha => ?_⟩, ?_⟩
      · rw [← ht] at ha
        exact List.all_eq_true.mp (List.all_takeWhile (p := isNameChar)) a ha
      · rw [← ht, ← hd, List.takeWhile_append_dropWhile]
    · simp at h
  · rintro ⟨hn, rfl⟩
    exact reference?_name hn rest

theorem pieces_written {name : List Char} (h : IsName name) (rest : List Char) :
    pieces (written name ++ rest) = .reference name :: pieces rest := by
  have hr : reference? (name ++ ['\x7d'] ++ rest) = some (name, rest) := by
    rw [List.append_assoc]
    exact reference?_name h rest
  simp only [written, List.cons_append]
  rw [pieces]
  split
  · rename_i n r he
    rw [hr] at he
    simp only [Option.some.injEq, Prod.mk.injEq] at he
    obtain ⟨rfl, rfl⟩ := he
    rfl
  · rename_i he
    rw [hr] at he
    simp at he

@[simp] theorem textOf_pieces (cs : List Char) : textOf (pieces cs) = cs := by
  fun_induction pieces cs with
  | case1 => rfl
  | case2 cs name rest h hl ih =>
    obtain ⟨-, rfl⟩ := reference?_eq_some_iff.mp h
    simp [ih, written]
  | case3 cs h ih => simp [ih]
  | case4 c cs h ih => simp [ih]

theorem isName_of_mem_pieces {cs name : List Char} (h : .reference name ∈ pieces cs) : IsName name := by
  fun_induction pieces cs with
  | case1 => simp at h
  | case2 cs n rest hr hl ih =>
    rcases List.mem_cons.mp h with he | hm
    · cases he
      exact (reference?_eq_some_iff.mp hr).1
    · exact ih hm
  | case3 cs hr ih => exact ih (by simpa using h)
  | case4 c cs hc ih => exact ih (by simpa using h)

theorem infix_of_notMem {c : Char} {cs u v : List Char} (hc : c ∉ u) (h : c :: cs <:+: u ++ v) :
    c :: cs <:+: v := by
  induction u with
  | nil => exact h
  | cons a u ih =>
    obtain ⟨hn, hu⟩ := not_or.mp (fun hm => hc (List.mem_cons.mpr hm))
    rcases List.infix_cons_iff.mp h with hp | hi
    · exact absurd (List.cons_prefix_cons.mp hp).1 hn
    · exact ih hu hi

theorem written_infix_of_mem {cs name : List Char} (h : .reference name ∈ pieces cs) :
    written name <:+: cs := by
  obtain ⟨before, after, hs⟩ := List.append_of_mem h
  refine ⟨textOf before, textOf after, ?_⟩
  rw [← textOf_pieces cs, hs]
  simp [textOf, Piece.text]

theorem mem_pieces_of_infix {cs name : List Char} (hn : IsName name) (h : written name <:+: cs) :
    .reference name ∈ pieces cs := by
  fun_induction pieces cs with
  | case1 => simp [written] at h
  | case2 cs n rest hr hl ih =>
    obtain ⟨hn', rfl⟩ := reference?_eq_some_iff.mp hr
    rcases List.infix_cons_iff.mp h with hp | hi
    · obtain ⟨tail, ht⟩ := hp
      have he : Piece.reference name :: pieces tail = .reference n :: pieces rest := by
        rw [← pieces_written hn, ← pieces_written hn', ht]
        simp [written]
      rw [(List.cons.inj he).1]
      exact List.mem_cons_self
    · have hd : '$' ∉ '\x7b' :: n ++ ['\x7d'] := by
        have hh := notMem_of_isName hn' (c := '$') (by decide)
        simp [hh]
      have hr' : written name <:+: rest := infix_of_notMem hd (by simpa [written] using hi)
      exact List.mem_cons_of_mem _ (ih hr')
  | case3 cs hr ih =>
    rcases List.infix_cons_iff.mp h with hp | hi
    · obtain ⟨tail, ht⟩ := hp
      simp only [written, List.cons_append, List.cons.injEq, true_and] at ht
      rw [← ht, List.append_assoc] at hr
      exact absurd ((reference?_name hn tail).symm.trans hr) (by simp)
    · exact List.mem_cons_of_mem _ (ih hi)
  | case4 c cs hc ih =>
    rcases List.infix_cons_iff.mp h with hp | hi
    · obtain ⟨tail, ht⟩ := hp
      simp only [written, List.cons_append, List.cons.injEq] at ht
      obtain ⟨rfl, rfl⟩ := ht
      exact absurd rfl (hc _ rfl)
    · exact List.mem_cons_of_mem _ (ih hi)

theorem mem_pieces_iff {cs name : List Char} :
    .reference name ∈ pieces cs ↔ IsName name ∧ written name <:+: cs :=
  ⟨fun h => ⟨isName_of_mem_pieces h, written_infix_of_mem h⟩, fun h => mem_pieces_of_infix h.1 h.2⟩

end Substitution
end ConfigLayers
