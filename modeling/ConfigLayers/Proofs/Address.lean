import ConfigLayers.Proofs.Text.Split
import ConfigLayers.Proofs.Url

/-! The addresses that stand in brackets, which are told by their hexadecimal digits in either letter case. -/
namespace ConfigLayers
namespace Url

open Text

def lowerHex (c : Char) : Char :=
  ((hexDigit? c).map hexChar).getD c

theorem lowerHex_of_none {c : Char} (h : hexDigit? c = none) : lowerHex c = c := by
  rw [lowerHex, h]
  rfl

theorem hexDigit?_lowerHex (c : Char) : hexDigit? (lowerHex c) = hexDigit? c := by
  have hall : ∀ d < 16, hexDigit? (hexChar d) = some d := by decide
  cases h : hexDigit? c with
  | none => rw [lowerHex_of_none h, h]
  | some d =>
    rw [lowerHex, h]
    exact hall d (hexDigit?_lt h)

theorem lowerHex_eq_iff {c sign : Char} (h : hexDigit? sign = none) : lowerHex c = sign ↔ c = sign := by
  constructor
  · rintro rfl
    rw [hexDigit?_lowerHex] at h
    exact (lowerHex_of_none h).symm
  · rintro rfl
    exact lowerHex_of_none h

theorem isAsciiDigit_lowerHex (c : Char) :
    isAsciiDigit (lowerHex c) = isAsciiDigit c ∧ (isAsciiDigit c = true → lowerHex c = c) := by
  have hdigits : ∀ d < 16, isAsciiDigit (hexChar d) = decide (d < 10) := by decide
  cases h : hexDigit? c with
  | none => exact ⟨by rw [lowerHex_of_none h], fun _ => lowerHex_of_none h⟩
  | some d =>
    have hform : lowerHex c = hexChar d := by
      rw [lowerHex, h]
      rfl
    have hc := toNat_of_hexDigit? h
    rw [hform, hdigits d (hexDigit?_lt h)]
    constructor
    · rw [Bool.eq_iff_iff, decide_eq_true_eq, isAsciiDigit, Bool.and_eq_true, decide_eq_true_eq, decide_eq_true_eq]
      omega
    · intro hdigit
      simp only [isAsciiDigit, Bool.and_eq_true, decide_eq_true_eq] at hdigit
      have hlow : d < 10 ∧ c.toNat = 0x30 + d := by omega
      rw [hexChar, if_pos hlow.1, ← hlow.2, Char.ofNat_toNat]

section

variable (cs : List Char)

theorem splitChars_lowerHex {sep : Char} (h : hexDigit? sep = none) :
    splitChars sep (cs.map lowerHex) = (splitChars sep cs).map (List.map lowerHex) := by
  induction cs with
  | nil => rfl
  | cons c cs ih =>
    rw [List.map_cons, splitChars, splitChars, ih]
    simp only [lowerHex_eq_iff h]
    split
    · rfl
    · cases splitChars sep cs <;> rfl

theorem isGroup_lowerHex : isGroup (cs.map lowerHex) = isGroup cs := by
  simp [isGroup, Function.comp_def, hexDigit?_lowerHex]

theorem isOctet_lowerHex : isOctet (cs.map lowerHex) = isOctet cs := by
  by_cases h : cs.all isAsciiDigit = true
  · have hself : cs.map lowerHex = cs :=
      (List.map_congr_left fun c hc => (isAsciiDigit_lowerHex c).2 (List.all_eq_true.mp h c hc)).trans (List.map_id cs)
    rw [hself]
  · have hall : (cs.map lowerHex).all isAsciiDigit = cs.all isAsciiDigit := by
      simp [Function.comp_def, isAsciiDigit_lowerHex]
    rw [isOctet, isOctet, hall, Bool.eq_false_iff.mpr h]
    rfl

theorem isQuad_lowerHex : isQuad (cs.map lowerHex) = isQuad cs := by
  simp [isQuad, splitChars_lowerHex cs (show hexDigit? '.' = none from rfl), Function.comp_def, isOctet_lowerHex]

end

theorem groups?_lowerHex (parts : List (List Char)) : groups? (parts.map (List.map lowerHex)) = groups? parts := by
  induction parts with
  | nil => rfl
  | cons part rest ih =>
    cases rest with
    | nil => simp only [List.map_cons, List.map_nil, groups?, isGroup_lowerHex, isQuad_lowerHex]
    | cons next rest => simp only [List.map_cons, groups?, isGroup_lowerHex, ← ih]

theorem colonParts_lowerHex (cs : List Char) : colonParts (cs.map lowerHex) = (colonParts cs).map (List.map lowerHex) := by
  rw [colonParts, colonParts, List.isEmpty_map, splitChars_lowerHex cs rfl]
  split <;> rfl

theorem cutGap_lowerHex (cs : List Char) :
    cutGap (cs.map lowerHex) = (cutGap cs).map (Prod.map (List.map lowerHex) (List.map lowerHex)) := by
  induction cs with
  | nil => rfl
  | cons c cs ih =>
    have hgap : (lowerHex c == ':' && (cs.map lowerHex).head? == some ':') = (c == ':' && cs.head? == some ':') := by
      have hcolon : ∀ d, lowerHex d = ':' ↔ d = ':' := fun d => lowerHex_eq_iff rfl
      rw [Bool.eq_iff_iff]
      simp [hcolon]
    rw [List.map_cons, cutGap, cutGap, hgap, ih]
    split
    · simp
    · cases cutGap cs <;> rfl

theorem isAddress_lowerHex (cs : List Char) : isAddress (cs.map lowerHex) = isAddress cs := by
  rw [isAddress, isAddress, cutGap_lowerHex]
  cases cutGap cs with
  | none => simp [colonParts_lowerHex, groups?_lowerHex]
  | some parts =>
    simp [Prod.map, colonParts_lowerHex, groups?_lowerHex, Function.comp_def, isGroup_lowerHex]

def IsAddressChar (c : Char) : Prop :=
  (hexDigit? c).isSome ∨ c ∈ [':', '.']

section

variable {cs : List Char}

theorem isAddressChar_of_isGroup (h : isGroup cs = true) {c : Char} (hc : c ∈ cs) : IsAddressChar c := by
  rw [isGroup, Bool.and_eq_true] at h
  exact .inl (List.all_eq_true.mp h.2 c hc)

theorem isAddressChar_of_isQuad (h : isQuad cs = true) {c : Char} (hc : c ∈ cs) : IsAddressChar c := by
  rw [isQuad, Bool.and_eq_true] at h
  rcases mem_splitChars '.' hc with rfl | ⟨octet, hoctet, hmem⟩
  · exact .inr (by decide)
  · have hall := List.all_eq_true.mp h.2 octet hoctet
    simp only [isOctet, Bool.and_eq_true] at hall
    have hdigit := List.all_eq_true.mp hall.1.1.1 c hmem
    rw [isAsciiDigit] at hdigit
    exact .inl (by rw [hexDigit?, if_pos hdigit]; rfl)

theorem of_isSome_groups? {first : List Char} {rest : List (List Char)} (h : (groups? (first :: rest)).isSome) :
    (isGroup first = true ∨ isQuad first = true) ∧ (groups? rest).isSome := by
  cases rest with
  | nil =>
    rw [groups?] at h
    split at h
    · rename_i hgroup
      exact ⟨.inl hgroup, rfl⟩
    · split at h
      · rename_i hquad
        exact ⟨.inr hquad, rfl⟩
      · cases h
  | cons next rest =>
    rw [groups?] at h
    · split at h
      · rename_i hgroup
        rw [Option.isSome_map] at h
        exact ⟨.inl hgroup, h⟩
      · cases h
    · exact List.cons_ne_nil next rest

theorem isAddressChar_of_groups? {parts : List (List Char)} (h : (groups? parts).isSome) {part : List Char}
    (hpart : part ∈ parts) {c : Char} (hc : c ∈ part) : IsAddressChar c := by
  induction parts with
  | nil => cases hpart
  | cons first rest ih =>
    obtain ⟨hfirst, hrest⟩ := of_isSome_groups? h
    rcases List.mem_cons.mp hpart with rfl | hpart
    · exact hfirst.elim (isAddressChar_of_isGroup · hc) (isAddressChar_of_isQuad · hc)
    · exact ih hrest hpart

theorem isAddressChar_of_colonParts (h : ∀ part ∈ colonParts cs, ∀ c ∈ part, IsAddressChar c) {c : Char} (hc : c ∈ cs) :
    IsAddressChar c := by
  have hne : cs.isEmpty = false := by
    cases cs with
    | nil => cases hc
    | cons d ds => rfl
  rw [colonParts, hne] at h
  rcases mem_splitChars ':' hc with rfl | ⟨part, hpart, hmem⟩
  · exact .inr (by decide)
  · exact h part hpart c hmem

theorem eq_of_cutGap {before after : List Char} (h : cutGap cs = some (before, after)) :
    cs = before ++ ':' :: ':' :: after := by
  induction cs generalizing before with
  | nil => cases h
  | cons c cs ih =>
    rw [cutGap] at h
    split at h
    · rename_i hgap
      rw [Bool.and_eq_true, beq_iff_eq, beq_iff_eq, List.head?_eq_some_iff] at hgap
      obtain ⟨rfl, rest, rfl⟩ := hgap
      cases h
      rfl
    · obtain ⟨⟨first, rest⟩, hcut, heq⟩ := Option.map_eq_some_iff.mp h
      cases heq
      rw [ih hcut]
      rfl

theorem isAddressChar_of_isAddress (h : isAddress cs = true) {c : Char} (hc : c ∈ cs) : IsAddressChar c := by
  unfold isAddress at h
  split at h
  · rw [beq_iff_eq] at h
    refine isAddressChar_of_colonParts (fun part hpart c hm => ?_) hc
    exact isAddressChar_of_groups? (by rw [h]; rfl) hpart hm
  · rename_i before after hcut
    rw [Bool.and_eq_true] at h
    obtain ⟨hbefore, hafter⟩ := h
    rw [eq_of_cutGap hcut, List.mem_append, List.mem_cons, List.mem_cons] at hc
    rcases hc with hc | rfl | rfl | hc
    · exact isAddressChar_of_colonParts
        (fun part hpart c hm => isAddressChar_of_isGroup (List.all_eq_true.mp hbefore part hpart) hm) hc
    · exact .inr (by decide)
    · exact .inr (by decide)
    · refine isAddressChar_of_colonParts (fun part hpart c hm => ?_) hc
      exact isAddressChar_of_groups? (Option.isSome_of_any hafter) hpart hm

end

theorem lowerChar_of_isAddressChar {c : Char} (h : IsAddressChar c) :
    lowerChar c = [lowerHex c] ∧ c ≠ 'Σ' ∧ c ≠ '%' := by
  rcases h with h | h
  · obtain ⟨d, hd⟩ := Option.isSome_iff_exists.mp h
    refine ⟨?_, ?_, ?_⟩
    · rw [lowerChar_of_hexDigit? hd, lowerHex, hd]
      rfl
    · rintro rfl
      cases hd
    · rintro rfl
      cases hd
  · simp only [List.mem_cons, List.not_mem_nil, or_false] at h
    rcases h with rfl | rfl
    · exact ⟨lowerChar_of_lt (by decide), by decide, by decide⟩
    · exact ⟨lowerChar_of_lt (by decide), by decide, by decide⟩

theorem lowerAfter_append {cs : List Char} (h : ∀ c ∈ cs, lowerChar c = [lowerHex c] ∧ c ≠ 'Σ') (before ds : List Char) :
    lowerAfter before (cs ++ ds) = cs.map lowerHex ++ lowerAfter (cs.reverse ++ before) ds := by
  induction cs generalizing before with
  | nil => rfl
  | cons c cs ih =>
    obtain ⟨hc, hcs⟩ := List.forall_mem_cons.mp h
    rw [List.cons_append, lowerAfter, ih hcs, if_neg (by simpa using hc.2), hc.1]
    simp

theorem lowerAfter_of_isAddress {cs : List Char} (h : isAddress cs = true) : lowerAfter [] cs = cs.map lowerHex := by
  have hchars : ∀ c ∈ cs, lowerChar c = [lowerHex c] ∧ c ≠ 'Σ' := fun c hc =>
    ⟨(lowerChar_of_isAddressChar (isAddressChar_of_isAddress h hc)).1,
      (lowerChar_of_isAddressChar (isAddressChar_of_isAddress h hc)).2.1⟩
  have happend := lowerAfter_append hchars [] []
  rwa [List.append_nil, lowerAfter, List.append_nil] at happend

theorem isZoned_normal {cs : List Char} (h : isZoned cs = true) : isZoned (normal cs) = true := by
  have hpercent : ∀ {address : List Char}, isAddress address = true → '%' ∉ address.map lowerHex := by
    intro address haddress hm
    rw [← lowerAfter_of_isAddress haddress] at hm
    have hno : isNoForm 0 0x60 = true := by decide +kernel
    have hmem := (lowers_lowerAfter [] address).mem hno hm (by decide) (by decide)
    exact (lowerChar_of_isAddressChar (isAddressChar_of_isAddress haddress hmem)).2.2 rfl
  unfold isZoned at h
  unfold normal
  rcases hcut : cut '%' cs with _ | ⟨address, zone⟩
  · simp only [hcut] at h ⊢
    rw [lowerAfter_of_isAddress h, isZoned, cut_of_notMem (hpercent h), isAddress_lowerHex, h]
  · simp only [hcut, Bool.and_eq_true] at h ⊢
    obtain ⟨⟨haddress, hzone⟩, hnone⟩ := h
    rw [lowerAfter_of_isAddress haddress, isZoned, cut_append (hpercent haddress)]
    dsimp only
    rw [isAddress_lowerHex, haddress, hzone, hnone]
    rfl

theorem isFuture_iff {cs : List Char} :
    isFuture cs = true ↔
      ∃ version rest, cs = 'v' :: (version ++ '.' :: rest) ∧ (version ≠ [] ∧ ∀ c ∈ version, (hexDigit? c).isSome) ∧
        rest ≠ [] := by
  have hdot : ∀ {version : List Char}, (∀ c ∈ version, (hexDigit? c).isSome) → '.' ∉ version :=
    fun hall hm => by cases hall _ hm
  constructor
  · intro h
    unfold isFuture at h
    split at h
    · split at h
      · rename_i version rest hcut
        obtain ⟨rfl, -⟩ := cut_eq_some_iff.mp hcut
        simp only [Bool.and_eq_true, Bool.not_eq_true', List.isEmpty_eq_false_iff, List.all_eq_true] at h
        exact ⟨version, rest, rfl, h⟩
      · cases h
    · cases h
  · rintro ⟨version, rest, rfl, ⟨hne, hall⟩, hrest⟩
    rw [isFuture, cut_append (hdot hall)]
    simpa [hne, hrest] using hall

theorem isFuture_normal {cs : List Char} (h : isFuture cs = true) : isFuture (normal cs) = true := by
  obtain ⟨version, rest, rfl, ⟨hne, hall⟩, hrest⟩ := isFuture_iff.mp h
  have hform : ∀ c ∈ 'v' :: (version ++ ['.']), (lowerChar c = [lowerHex c] ∧ c ≠ 'Σ') ∧ c ≠ '%' := by
    intro c hc
    simp only [List.mem_cons, List.mem_append, List.not_mem_nil, or_false] at hc
    rcases hc with rfl | hc | rfl
    · exact ⟨⟨lowerChar_of_lt (by decide), by decide⟩, by decide⟩
    · exact and_assoc.mpr (lowerChar_of_isAddressChar (.inl (hall c hc)))
    · exact and_assoc.mpr (lowerChar_of_isAddressChar (.inr (by decide)))
  obtain ⟨tail, htail, hnormal⟩ :
      ∃ tail, tail ≠ [] ∧ normal ('v' :: (version ++ ['.']) ++ rest) = ('v' :: (version ++ ['.'])).map lowerHex ++ tail := by
    unfold normal
    cases hcut : cut '%' rest with
    | none =>
      rw [cut_of_notMem, lowerAfter_append fun c hc => (hform c hc).1]
      · exact ⟨_, (lowers_lowerAfter _ rest).ne_nil hrest, rfl⟩
      · rw [List.mem_append, not_or]
        exact ⟨fun hm => (hform _ hm).2 rfl, cut_eq_none_iff.mp hcut⟩
    | some parts =>
      obtain ⟨name, zone⟩ := parts
      obtain ⟨rfl, hname⟩ := cut_eq_some_iff.mp hcut
      rw [← List.append_assoc, cut_append]
      · dsimp only
        rw [lowerAfter_append (fun c hc => (hform c hc).1), List.append_assoc]
        exact ⟨_, by simp, rfl⟩
      · rw [List.mem_append, not_or]
        exact ⟨fun hm => (hform _ hm).2 rfl, hname⟩
  refine isFuture_iff.mpr ⟨version.map lowerHex, tail, ?_, ⟨by simpa using hne, ?_⟩, htail⟩
  · have hv : lowerHex 'v' = 'v' := lowerHex_of_none rfl
    have hdot : lowerHex '.' = '.' := lowerHex_of_none rfl
    simpa [hv, hdot] using hnormal
  · intro c hc
    obtain ⟨d, hd, rfl⟩ := List.mem_map.mp hc
    rw [hexDigit?_lowerHex]
    exact hall d hd

theorem isBracketable_normal {host : List Char} (h : isBracketable host = true) : isBracketable (normal host) = true := by
  rw [isBracketable, Bool.or_eq_true] at h ⊢
  exact h.imp isZoned_normal isFuture_normal

end Url
end ConfigLayers
