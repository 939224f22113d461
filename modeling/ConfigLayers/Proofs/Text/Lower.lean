import ConfigLayers.Proofs.Text.Case

/-! What the characters of a lower-case text come from. None of them is mapped any further, those that are no letters
are those of the text itself, and but for one letter each comes from one character. -/
namespace ConfigLayers
namespace Text

namespace CaseRun

variable {q r : CaseRun} {m n : Nat}

def imageFirst (r : CaseRun) : Nat :=
  (r.first + r.offset).toNat

def imageLast (r : CaseRun) : Nat :=
  (r.last + r.offset).toNat

/-- Whether a run maps nothing that another one maps to: it lies apart, or takes the code points between. -/
def spares (q r : CaseRun) : Bool :=
  Nat.blt r.imageLast q.first || Nat.blt q.last r.imageFirst ||
    (Nat.beq q.step 2 && (Nat.beq r.step 2 || Nat.beq r.first r.last) && Nat.beq ((r.imageFirst + q.first) % 2) 1)

theorem image?_eq_some_iff :
    r.image? n = some m ↔
      r.first ≤ n ∧ n ≤ r.last ∧ (n - r.first) % r.step = 0 ∧ (n + r.offset).toNat = m := by
  unfold image?
  split
  · rename_i h
    simp only [Bool.and_eq_true, decide_eq_true_eq, beq_iff_eq] at h
    simp [h]
  · rename_i h
    simp only [Bool.and_eq_true, decide_eq_true_eq, beq_iff_eq] at h
    simp only [reduceCtorEq, false_iff]
    rintro ⟨hlow, hhigh, hstep, -⟩
    exact h ⟨⟨hlow, hhigh⟩, hstep⟩

theorem image?_of_spares (h : q.spares r = true) (hr : 0 ≤ r.first + r.offset) (hn : r.image? n = some m) :
    q.image? m = none := by
  rw [Option.eq_none_iff_forall_ne_some]
  intro k hk
  obtain ⟨hlow, hhigh, hstep, rfl⟩ := image?_eq_some_iff.mp hn
  obtain ⟨hlow', hhigh', hstep', -⟩ := image?_eq_some_iff.mp hk
  simp only [spares, Bool.or_eq_true, Bool.and_eq_true, Nat.blt_eq, Nat.beq_eq] at h
  rw [imageFirst, imageLast] at h
  rcases h with (h | h) | ⟨⟨hq, htwo | hone⟩, hodd⟩
  · omega
  · omega
  · rw [hq] at hstep'
    rw [htwo] at hstep
    omega
  · rw [hq] at hstep'
    omega

end CaseRun

theorem toNat_ofNat {n : Nat} (h : n.isValidChar) : (Char.ofNat n).toNat = n := by
  rw [Char.ofNat, dif_pos h]
  rfl

theorem lowerChar_cases (c : Char) :
    (∃ r ∈ lowerRuns.toList, ∃ n, r.image? c.toNat = some n ∧ lowerChar c = [Char.ofNat n]) ∨
      (∃ p ∈ lowerLong, c.toNat = p.1 ∧ lowerChar c = p.2.map Char.ofNat) ∨ lowerChar c = [c] := by
  unfold lowerChar mapCase
  split
  · rename_i n hn
    obtain ⟨r, hr, hn⟩ := Array.exists_of_findSome?_eq_some hn
    exact .inl ⟨r, Array.mem_toList_iff.mpr hr, n, hn, rfl⟩
  · split
    · rename_i ns hns
      obtain ⟨before, after, hlong, -⟩ := List.lookup_eq_some_iff.mp hns
      exact .inr (.inl ⟨(c.toNat, ns), by simp [hlong], rfl, rfl⟩)
    · exact .inr (.inr rfl)

theorem lowerLong_spared :
    (lowerLong.all fun p => p.2.all fun n => Nat.blt n 0xd800 && isUncased n n) = true := by
  decide +kernel

theorem toNat_long {p : Nat × List Nat} (hp : p ∈ lowerLong) {n : Nat} (hn : n ∈ p.2) : (Char.ofNat n).toNat = n := by
  have hspared := List.all_eq_true.mp (List.all_eq_true.mp lowerLong_spared p hp) n hn
  rw [Bool.and_eq_true, Nat.blt_eq] at hspared
  exact toNat_ofNat (.inl hspared.1)

theorem lowerChar_sigma : lowerChar 'Σ' = ['σ'] ∧ isUncased 'ς'.toNat 'σ'.toNat = true := by
  decide +kernel

/-- Runs map to characters that no run maps, and that have no longer form. -/
theorem lowerRuns_spared :
    (lowerRuns.toList.all fun r =>
      decide (0 ≤ r.first + r.offset) && (Nat.blt r.imageLast 0xd800 || Nat.blt 0xdfff r.imageFirst) &&
        Nat.blt r.imageLast 0x110000 && (lowerRuns.toList.all fun q => q.spares r) &&
        lowerLong.all fun p => Nat.blt p.1 r.imageFirst || Nat.blt r.imageLast p.1) = true := by
  decide +kernel

theorem toNat_image {r : CaseRun} (hr : r ∈ lowerRuns.toList) {m n : Nat} (hm : r.image? m = some n) :
    (Char.ofNat n).toNat = n ∧ r.imageFirst ≤ n ∧ n ≤ r.imageLast := by
  have hspared := List.all_eq_true.mp lowerRuns_spared r hr
  simp only [Bool.and_eq_true, decide_eq_true_eq, Bool.or_eq_true, Nat.blt_eq, and_assoc] at hspared
  obtain ⟨hoffset, hgap, hlast, -⟩ := hspared
  obtain ⟨hlow, hhigh, -, rfl⟩ := CaseRun.image?_eq_some_iff.mp hm
  rw [CaseRun.imageFirst, CaseRun.imageLast] at *
  refine ⟨toNat_ofNat ?_, by omega, by omega⟩
  unfold Nat.isValidChar
  omega

theorem lowerChar_of_mem {c d : Char} (h : d ∈ lowerChar c) : lowerChar d = [d] := by
  rcases lowerChar_cases c with ⟨r, hr, n, hn, hc⟩ | ⟨p, hp, -, hc⟩ | hc
  · rw [hc, List.mem_singleton] at h
    obtain ⟨htoNat, hlow, hhigh⟩ := toNat_image hr hn
    have hspared := List.all_eq_true.mp lowerRuns_spared r hr
    simp only [Bool.and_eq_true, decide_eq_true_eq, List.all_eq_true, Bool.or_eq_true, Nat.blt_eq, and_assoc] at hspared
    obtain ⟨hoffset, -, -, hruns, hlong⟩ := hspared
    rw [h]
    rcases lowerChar_cases (Char.ofNat n) with ⟨q, hq, k, hk, -⟩ | ⟨p, hp, hkey, -⟩ | h
    · rw [htoNat, CaseRun.image?_of_spares (hruns q hq) hoffset hn] at hk
      cases hk
    · have := hlong p hp
      omega
    · exact h
  · rw [hc, List.mem_map] at h
    obtain ⟨n, hn, rfl⟩ := h
    have hspared := List.all_eq_true.mp (List.all_eq_true.mp lowerLong_spared p hp) n hn
    have htoNat := toNat_long hp hn
    exact lowerChar_of_isUncased (Bool.and_eq_true_iff.mp hspared).2 htoNat.ge htoNat.le
  · rw [hc, List.mem_singleton] at h
    exact h ▸ hc

/-- Whether no code point from `low` to `high` is in the lower-case form of another one. -/
def isNoForm (low high : Nat) : Bool :=
  (lowerRuns.toList.all fun r => Nat.blt r.imageLast low || Nat.blt high r.imageFirst) &&
    (lowerLong.all fun p => p.2.all fun n => Nat.blt n low || Nat.blt high n) &&
    (Nat.blt high 'ς'.toNat || Nat.blt 'σ'.toNat low)

def IsLower (c : Char) (form : List Char) : Prop :=
  if c = 'Σ' then form = ['ς'] ∨ form = ['σ'] else form = lowerChar c

/-- The lower-case forms of a text, whatever is around it. -/
inductive Lowers : List Char → List Char → Prop where
  | nil : Lowers [] []
  | cons {c : Char} {form cs ds : List Char} (hc : IsLower c form) (h : Lowers cs ds) : Lowers (c :: cs) (form ++ ds)

theorem lowers_lowerAfter (before cs : List Char) : Lowers cs (lowerAfter before cs) := by
  induction cs generalizing before with
  | nil => exact .nil
  | cons c cs ih =>
    rw [lowerAfter]
    refine .cons ?_ (ih (c :: before))
    unfold IsLower
    by_cases hc : c = 'Σ'
    · simp only [hc, beq_self_eq_true, if_true]
      split
      · exact .inl rfl
      · exact .inr rfl
    · simp [hc]

section

variable {c d : Char} {form cs ds : List Char}

theorem IsLower.lowerChar (h : IsLower c form) (hd : d ∈ form) : lowerChar d = [d] := by
  unfold IsLower at h
  split at h
  · rcases h with rfl | rfl
    · exact List.mem_singleton.mp hd ▸ lowerChar_of_isUncased lowerChar_sigma.2 (by decide) (by decide)
    · exact List.mem_singleton.mp hd ▸ lowerChar_of_isUncased lowerChar_sigma.2 (by decide) (by decide)
  · exact lowerChar_of_mem (h ▸ hd)

theorem IsLower.eq {low high : Nat} (h : IsLower c form) (hno : isNoForm low high = true) (hd : d ∈ form)
    (hlow : low ≤ d.toNat) (hhigh : d.toNat ≤ high) : d = c := by
  simp only [isNoForm, Bool.and_eq_true, Bool.or_eq_true, List.all_eq_true, Nat.blt_eq] at hno
  obtain ⟨⟨hruns, hlong⟩, hsigma⟩ := hno
  have hsigmas : 'ς'.toNat + 1 = 'σ'.toNat := by decide
  unfold IsLower at h
  split at h
  · rcases h with rfl | rfl
    · rw [List.mem_singleton.mp hd] at hlow hhigh
      omega
    · rw [List.mem_singleton.mp hd] at hlow hhigh
      omega
  · rw [h] at hd
    rcases lowerChar_cases c with ⟨r, hr, n, hn, hc⟩ | ⟨p, hp, -, hc⟩ | hc
    · rw [hc, List.mem_singleton] at hd
      obtain ⟨htoNat, hfirst, hlast⟩ := toNat_image hr hn
      rw [hd, htoNat] at hlow hhigh
      have := hruns r hr
      omega
    · rw [hc, List.mem_map] at hd
      obtain ⟨n, hn, rfl⟩ := hd
      rw [toNat_long hp hn] at hlow hhigh
      have := hlong p hp n hn
      omega
    · rw [hc] at hd
      exact List.mem_singleton.mp hd

theorem IsLower.eq_or (h : IsLower c form) : (∃ d, form = [d]) ∨ ∃ es, form = es ++ ['\u0307'] := by
  have hdot : ∀ p ∈ lowerLong, ∃ ns, p.2 = ns ++ [0x307] := by
    intro p hp
    obtain rfl := List.mem_singleton.mp hp
    exact ⟨[0x69], rfl⟩
  unfold IsLower at h
  split at h
  · rcases h with rfl | rfl
    · exact .inl ⟨_, rfl⟩
    · exact .inl ⟨_, rfl⟩
  · rw [h]
    rcases lowerChar_cases c with ⟨r, -, n, -, hc⟩ | ⟨p, hp, -, hc⟩ | hc
    · exact .inl ⟨_, hc⟩
    · obtain ⟨ns, hns⟩ := hdot p hp
      exact .inr ⟨ns.map Char.ofNat, by rw [hc, hns, List.map_append]; rfl⟩
    · exact .inl ⟨_, hc⟩

theorem Lowers.exists_of_mem (h : Lowers cs ds) (hd : d ∈ ds) : ∃ c ∈ cs, ∃ form, IsLower c form ∧ d ∈ form := by
  induction h with
  | nil => cases hd
  | @cons c form cs ds hc _ ih =>
    rcases List.mem_append.mp hd with hd | hd
    · exact ⟨c, List.mem_cons_self, form, hc, hd⟩
    · obtain ⟨c', hc', hform⟩ := ih hd
      exact ⟨c', List.mem_cons_of_mem c hc', hform⟩

theorem Lowers.exists_form (h : Lowers cs ds) (hc : c ∈ cs) : ∃ form, IsLower c form ∧ ∀ d ∈ form, d ∈ ds := by
  induction h with
  | nil => cases hc
  | @cons c' form cs ds hform _ ih =>
    rcases List.mem_cons.mp hc with rfl | hc
    · exact ⟨form, hform, fun d hd => List.mem_append_left ds hd⟩
    · obtain ⟨form', hform', hds⟩ := ih hc
      exact ⟨form', hform', fun d hd => List.mem_append_right form (hds d hd)⟩

theorem Lowers.mem {low high : Nat} (h : Lowers cs ds) (hno : isNoForm low high = true) (hd : d ∈ ds)
    (hlow : low ≤ d.toNat) (hhigh : d.toNat ≤ high) : d ∈ cs := by
  obtain ⟨c, hc, form, hform, hmem⟩ := h.exists_of_mem hd
  exact hform.eq hno hmem hlow hhigh ▸ hc

theorem Lowers.length_eq (h : Lowers cs ds) (hdot : '\u0307' ∉ ds) : ds.length = cs.length := by
  induction h with
  | nil => rfl
  | cons hc _ ih =>
    rcases hc.eq_or with ⟨d, rfl⟩ | ⟨es, rfl⟩
    · simp [ih fun hm => hdot (List.mem_append_right _ hm)]
    · simp at hdot

theorem Lowers.ne_nil (h : Lowers cs ds) (hcs : cs ≠ []) : ds ≠ [] := by
  cases h with
  | nil => exact absurd rfl hcs
  | cons hc _ => rcases hc.eq_or with ⟨d, rfl⟩ | ⟨es, rfl⟩ <;> simp

theorem Lowers.exists_append {es fs : List Char} (h : Lowers cs (es ++ fs)) (hdot : '\u0307' ∉ fs) :
    ∃ before after, cs = before ++ after ∧ Lowers before es ∧ Lowers after fs := by
  generalize hds : es ++ fs = ds at h
  induction h generalizing es with
  | nil =>
    obtain ⟨rfl, rfl⟩ := List.append_eq_nil_iff.mp hds
    exact ⟨[], [], rfl, .nil, .nil⟩
  | @cons c form cs ds hc hl ih =>
    rcases List.append_eq_append_iff.mp hds with ⟨gs, rfl, rfl⟩ | ⟨gs, rfl, hgs⟩
    · rcases List.eq_nil_or_concat' gs with rfl | ⟨gs, g, rfl⟩
      · rw [List.append_nil] at hc
        exact ⟨[c], cs, rfl, List.append_nil es ▸ .cons hc .nil, hl⟩
      · rw [← List.append_assoc] at hc
        rcases hc.eq_or with ⟨d, hd⟩ | ⟨hs, hhs⟩
        · have hempty := List.append_inj_left' (hd.trans (List.nil_append [d]).symm) rfl
          obtain ⟨rfl, rfl⟩ := List.append_eq_nil_iff.mp hempty
          exact ⟨[], c :: cs, rfl, .nil, .cons hc hl⟩
        · obtain rfl := List.singleton_inj.mp (List.append_inj_right' hhs rfl)
          simp at hdot
    · obtain ⟨before, after, rfl, hb, ha⟩ := ih hgs.symm
      exact ⟨c :: before, after, rfl, .cons hc hb, ha⟩

theorem Lowers.lowerAfter (h : Lowers cs ds) (hfinal : 'ς' ∉ ds) (hsigma : 'σ' ∉ ds) (before : List Char) :
    lowerAfter before cs = ds := by
  induction h generalizing before with
  | nil => rfl
  | @cons c form cs ds hc _ ih =>
    rw [List.mem_append, not_or] at hfinal hsigma
    unfold IsLower at hc
    split at hc
    · rcases hc with rfl | rfl
      · simp at hfinal
      · simp at hsigma
    · rename_i hne
      rw [Text.lowerAfter, ih hfinal.2 hsigma.2, hc]
      simp [hne]

theorem ne_sigma_of_lowerChar (h : lowerChar c = [c]) : c ≠ 'Σ' := by
  rintro rfl
  rw [lowerChar_sigma.1] at h
  revert h
  decide

theorem lowerAfter_eq_self (h : ∀ c ∈ cs, lowerChar c = [c]) (before : List Char) : lowerAfter before cs = cs := by
  induction cs generalizing before with
  | nil => rfl
  | cons c cs ih =>
    obtain ⟨hc, hcs⟩ := List.forall_mem_cons.mp h
    have hne := ne_sigma_of_lowerChar hc
    rw [lowerAfter, ih hcs, hc]
    simp [hne]

end

end Text
end ConfigLayers
