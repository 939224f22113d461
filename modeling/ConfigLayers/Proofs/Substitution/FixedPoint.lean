import ConfigLayers.Proofs.Substitution.Pieces

/-! Substitution ends in a text without references that stand for a text. A round over a text that replaces
something changes the text, so nothing but the want of such references ends the rounds. -/
namespace ConfigLayers
namespace Substitution

variable {lookup : String → Option String} {inner : List Char → Expansion (List Char)}

def IsExpanded (lookup : String → Option String) (cs : List Char) : Prop :=
  ∀ name, IsName name → written name <:+: cs → lookup (String.ofList name) = none

theorem isExpanded_iff {cs : List Char} :
    IsExpanded lookup cs ↔ ∀ name, .reference name ∈ pieces cs → lookup (String.ofList name) = none := by
  simp only [IsExpanded, mem_pieces_iff, and_imp]

theorem isExpanded_of_notMem {cs : List Char} (h : '$' ∉ cs) : IsExpanded lookup cs :=
  fun _ _ hw => absurd (hw.subset List.mem_cons_self) h

/-- A round keeps its first piece, or puts the inner text of a reference in its place. -/
theorem replace_cons {p : Piece} {ps : List Piece} {result : List Char} {replaced : Bool}
    (h : (replace lookup inner (p :: ps)).value = .ok (result, replaced)) :
    ∃ rest among, (replace lookup inner ps).value = .ok (rest, among) ∧
      ((result = p.text ++ rest ∧ replaced = among ∧
          ∀ name, p = .reference name → lookup (String.ofList name) = none) ∨
        ∃ name raw text, p = .reference name ∧ lookup (String.ofList name) = some raw ∧
          (inner raw.toList).value = .ok text ∧ result = text ++ rest ∧ replaced = true) := by
  cases p with
  | char c =>
    obtain ⟨⟨rest, among⟩, hr, he⟩ := Traced.value_bind_eq_ok_iff.mp h
    cases he
    exact ⟨rest, _, hr, .inl ⟨rfl, rfl, by simp⟩⟩
  | reference name =>
    obtain ⟨_, _, h⟩ := Traced.value_bind_eq_ok_iff.mp h
    cases hn : lookup (String.ofList name) with
    | none =>
      simp only [hn] at h
      obtain ⟨⟨rest, among⟩, hr, he⟩ := Traced.value_bind_eq_ok_iff.mp h
      cases he
      exact ⟨rest, _, hr, .inl ⟨rfl, rfl, by simpa using hn⟩⟩
    | some raw =>
      simp only [hn] at h
      obtain ⟨text, ht, h⟩ := Traced.value_bind_eq_ok_iff.mp h
      obtain ⟨⟨rest, among⟩, hr, he⟩ := Traced.value_bind_eq_ok_iff.mp h
      cases he
      exact ⟨rest, among, hr, .inr ⟨name, raw, text, rfl, hn, ht, rfl, rfl⟩⟩

theorem eq_textOf_of_replace {ps : List Piece} {result : List Char}
    (h : (replace lookup inner ps).value = .ok (result, false)) :
    result = textOf ps ∧ ∀ name, .reference name ∈ ps → lookup (String.ofList name) = none := by
  induction ps generalizing result with
  | nil =>
    cases h
    simp
  | cons p ps ih =>
    obtain ⟨rest, among, hr, ⟨rfl, rfl, hp⟩ | ⟨_, _, _, _, _, _, _, hf⟩⟩ := replace_cons h
    · obtain ⟨rfl, hps⟩ := ih hr
      refine ⟨rfl, fun name hm => ?_⟩
      rcases List.mem_cons.mp hm with he | hm
      · exact hp name he.symm
      · exact hps name hm
    · cases hf

theorem replace_eq_textOf {ps : List Piece}
    (h : ∀ name, .reference name ∈ ps → lookup (String.ofList name) = none) :
    (replace lookup inner ps).value = .ok (textOf ps, false) := by
  induction ps with
  | nil => rfl
  | cons p ps ih =>
    have hps := ih fun name hm => h name (List.mem_cons_of_mem _ hm)
    cases p with
    | char c =>
      rw [replace, Traced.value_bind_ok _ hps]
      rfl
    | reference name =>
      rw [replace, Traced.value_bind_ok _ (Traced.value_note _), h name List.mem_cons_self]
      rw [Traced.value_bind_ok _ hps]
      rfl

/-- A text does not come back behind itself: what a round makes of pieces ends in their text only if the
round has replaced nothing. The induction needs a part `shift` in front, which earlier pieces leave over when
what replaces them is shorter. -/
theorem replace_shifted (hi : ∀ cs text, (inner cs).value = .ok text → IsExpanded lookup text)
    {ps : List Piece} (hps : ∀ name, .reference name ∈ ps → IsName name)
    {result shift : List Char} {replaced : Bool}
    (h : (replace lookup inner ps).value = .ok (result, replaced)) (he : result = shift ++ textOf ps) :
    shift = [] ∧ replaced = false := by
  induction ps generalizing result shift replaced with
  | nil =>
    cases h
    exact ⟨by simpa using he.symm, rfl⟩
  | cons p ps ih =>
    have hps' : ∀ name, .reference name ∈ ps → IsName name := fun name hm => hps name (List.mem_cons_of_mem _ hm)
    obtain ⟨rest, among, hr, ⟨rfl, rfl, -⟩ | ⟨name, raw, text, rfl, hn, ht, rfl, -⟩⟩ := replace_cons h
    · have he : p.text ++ rest = (shift ++ p.text) ++ textOf ps := by simpa [textOf] using he
      rcases List.append_eq_append_iff.mp he with ⟨left, hs, hl⟩ | ⟨left, hs, hl⟩
      · obtain ⟨rfl, hf⟩ := ih hps' hr hl
        exact ⟨by simpa using hs, hf⟩
      · have hlen := congrArg List.length hs
        simp only [List.length_append] at hlen
        have hs' : shift = [] := List.eq_nil_of_length_eq_zero (by omega)
        have hl' : left = [] := List.eq_nil_of_length_eq_zero (by omega)
        subst hl'
        have hl : rest = [] ++ textOf ps := by simpa using hl.symm
        exact ⟨hs', (ih hps' hr hl).2⟩
    · have he : text ++ rest = (shift ++ written name) ++ textOf ps := by simpa using he
      have hc : ¬ written name <:+: text := fun hw => by
        have hh := hi _ _ ht name (hps name List.mem_cons_self) hw
        simp [hn] at hh
      rcases List.append_eq_append_iff.mp he with ⟨left, hs, hl⟩ | ⟨left, hs, -⟩
      · obtain ⟨rfl, -⟩ := ih hps' hr hl
        exact absurd ⟨shift, [], by simpa using hs⟩ hc
      · exact absurd ⟨shift, left, hs.symm⟩ hc

theorem replace_ne (hi : ∀ cs text, (inner cs).value = .ok text → IsExpanded lookup text)
    {cs result : List Char} (h : (replace lookup inner (pieces cs)).value = .ok (result, true)) : result ≠ cs := by
  intro he
  have he' : result = [] ++ textOf (pieces cs) := by simpa using he
  have hh := replace_shifted hi (fun _ => isName_of_mem_pieces) h he'
  simp at hh

theorem expand_succ (levels : Nat) (cs : List Char) :
    expand lookup (levels + 1) cs =
      (replace lookup (expand lookup levels) (pieces cs) >>= fun (result, replaced) =>
        if !replaced || result == cs then pure result else expand lookup levels result) := rfl

theorem expand_of_isExpanded {cs : List Char} (h : IsExpanded lookup cs) (levels : Nat) :
    (expand lookup (levels + 1) cs).value = .ok cs := by
  have hr : (replace lookup (expand lookup levels) (pieces cs)).value = .ok (textOf (pieces cs), false) :=
    replace_eq_textOf (isExpanded_iff.mp h)
  rw [textOf_pieces] at hr
  rw [expand_succ, Traced.value_bind_ok _ hr]
  rfl

theorem isExpanded_of_expand {levels : Nat} {cs result : List Char}
    (h : (expand lookup levels cs).value = .ok result) : IsExpanded lookup result := by
  induction levels generalizing cs result with
  | zero => cases h
  | succ levels ih =>
    rw [expand_succ] at h
    obtain ⟨⟨text, replaced⟩, hr, h⟩ := Traced.value_bind_eq_ok_iff.mp h
    cases replaced with
    | false =>
      cases h
      obtain ⟨rfl, hn⟩ := eq_textOf_of_replace hr
      rw [textOf_pieces]
      exact isExpanded_iff.mpr hn
    | true =>
      have hne := replace_ne (fun _ _ => ih) hr
      simp only [Bool.not_true, Bool.false_or, beq_iff_eq, hne, if_false] at h
      exact ih h

theorem substitute_some {value : String} {name : Option String} {limit : Int} {r : String} :
    (substitute (some value) lookup name limit).value = .ok (some r) ↔
      (expand lookup (limit + 1).toNat value.toList).value = .ok r.toList := by
  simp only [substitute, Traced.value_bind_eq_ok_iff, Traced.value_rephrase_eq_ok_iff]
  constructor
  · rintro ⟨text, ht, hr⟩
    cases hr
    rw [ht, String.toList_ofList]
  · intro h
    refine ⟨r.toList, h, ?_⟩
    rw [String.ofList_toList]
    rfl

theorem substitute_eq_error_iff {value name : Option String} {limit : Int} {e : Error} :
    (substitute value lookup name limit).value = .error e ↔
      ∃ text, value = some text ∧ e = .substitutionTooDeep (name.getD text) limit ∧
        ∀ result, (expand lookup (limit + 1).toNat text.toList).value ≠ .ok result := by
  cases value with
  | none => simp [substitute]
  | some text =>
    rw [substitute, Traced.value_bind, Traced.value_rephrase]
    cases hx : (expand lookup (limit + 1).toNat text.toList).value with
    | ok result =>
      constructor
      · intro h
        cases h
      · rintro ⟨_, ht, -, hn⟩
        cases ht
        exact absurd hx (hn result)
    | error fault =>
      constructor
      · intro h
        cases h
        exact ⟨text, rfl, rfl, fun result hr => nomatch hx.symm.trans hr⟩
      · rintro ⟨_, ht, rfl, -⟩
        cases ht
        rfl

/-- Substitution ends in a fixed point. The result holds no reference that stands for anything, no round that
replaces something ends because the text stays the same, and to substitute in the result again changes
nothing. -/
theorem substitute_fixed {value : Option String} {name : Option String} {limit : Int} {r : String}
    (h : (substitute value lookup name limit).value = .ok (some r)) :
    (∀ x : String, IsName x.toList → written x.toList <:+: r.toList → lookup x = none) ∧
      (∀ levels text result, (replace lookup (expand lookup levels) (pieces text)).value = .ok (result, true) →
        result ≠ text) ∧
      ∀ other, (substitute (some r) lookup other limit).value = .ok (some r) := by
  cases value with
  | none => cases h
  | some value =>
    have hr := substitute_some.mp h
    have hx := isExpanded_of_expand hr
    refine ⟨fun x hn hw => ?_, fun levels text result => replace_ne fun _ _ => isExpanded_of_expand, fun other => ?_⟩
    · simpa using hx x.toList hn hw
    · rw [substitute_some]
      cases hl : (limit + 1).toNat with
      | zero =>
        rw [hl] at hr
        cases hr
      | succ levels => exact expand_of_isExpanded hx levels

/-- A reference whose name is put together from another one, and one that stands for nothing. -/
theorem substitute_fixed_assembled :
    let lookup := fun x => if x = "b" then some "b" else if x = "ab" then some "x$\x7bc\x7d" else none
    (substitute (some "$\x7ba$\x7bb\x7d\x7d") lookup none 2).value = .ok (some "x$\x7bc\x7d") ∧
      ¬ written "ab".toList <:+: "x$\x7bc\x7d".toList ∧
      (substitute (some "x$\x7bc\x7d") lookup (some "k") 2).value = .ok (some "x$\x7bc\x7d") := by
  intro lookup
  have h : (substitute (some "$\x7ba$\x7bb\x7d\x7d") lookup none 2).value = .ok (some "x$\x7bc\x7d") := by
    have he : (substitute (some "$\x7ba$\x7bb\x7d\x7d") lookup none 2).value.toOption =
        some (some "x$\x7bc\x7d") := by decide +kernel
    cases hv : (substitute (some "$\x7ba$\x7bb\x7d\x7d") lookup none 2).value with
    | error e =>
      rw [hv] at he
      cases he
    | ok r =>
      rw [hv] at he
      exact congrArg _ (Option.some.inj he)
  have hn : IsName "ab".toList := by
    refine ⟨by decide, fun c hc => ?_⟩
    rcases List.mem_cons.mp hc with rfl | hc
    · decide
    · rw [List.mem_singleton.mp hc]
      decide
  refine ⟨h, fun hw => ?_, (substitute_fixed h).2.2 _⟩
  have hl := (substitute_fixed h).1 "ab" hn hw
  simp [lookup] at hl

end Substitution
end ConfigLayers
