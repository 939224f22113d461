import ConfigLayers.Proofs.Text.Digit
import ConfigLayers.Text.Case

/-! Lower-casing of digits: those of a decimal notation have no case in any script, and a hexadecimal one becomes the
lower-case digit of its value. -/
namespace ConfigLayers
namespace Text

def isUncased (low high : Nat) : Bool :=
  (lowerRuns.toList.all fun r => Nat.blt r.last low || Nat.blt high r.first) &&
    lowerLong.all fun p => Nat.blt p.1 low || Nat.blt high p.1

theorem lowerChar_of_isUncased {low high : Nat} (h : isUncased low high = true) {c : Char} (hlow : low ≤ c.toNat)
    (hhigh : c.toNat ≤ high) : lowerChar c = [c] := by
  obtain ⟨hruns, hlong⟩ := Bool.and_eq_true_iff.mp h
  simp only [List.all_eq_true, Array.mem_toList_iff, Bool.or_eq_true, Nat.blt_eq] at hruns hlong
  have hrun : lowerRuns.findSome? (fun r => r.image? c.toNat) = none := by
    rw [Array.findSome?_eq_none_iff]
    intro r hr
    rw [CaseRun.image?, if_neg]
    simp only [Bool.and_eq_true, decide_eq_true_eq]
    have := hruns r hr
    omega
  have hnone : lowerLong.lookup c.toNat = none := by
    rw [List.lookup_eq_none_iff]
    intro p hp
    have := hlong p hp
    simp only [bne_iff_ne, ne_eq]
    omega
  rw [lowerChar, mapCase, hrun, hnone]

theorem isUncased_gaps :
    isUncased 0 0x40 = true ∧ isUncased 0x5b 0xbf = true ∧ isUncased 0x1680 0x1680 = true ∧
      isUncased 0x2000 0x205f = true ∧ isUncased 0x3000 0x3000 = true := by
  decide +kernel

theorem lowerChar_of_lt {c : Char} (h : c.toNat < 0x41 ∨ 0x5a < c.toNat ∧ c.toNat < 0xc0) : lowerChar c = [c] := by
  rcases h with h | ⟨hlow, hhigh⟩
  · exact lowerChar_of_isUncased isUncased_gaps.1 (Nat.zero_le _) (by omega)
  · exact lowerChar_of_isUncased isUncased_gaps.2.1 hlow (by omega)

theorem isUncased_decimalZeros : (decimalZeros.all fun start => isUncased start (start + 9)) = true := by
  decide +kernel

theorem lowerChar_of_isDecimalDigit {c : Char} (h : isDecimalDigit c = true) : lowerChar c = [c] := by
  rw [isDecimalDigit, decimalDigit?, Option.isSome_map, List.find?_isSome] at h
  obtain ⟨start, hstart, hc⟩ := h
  simp only [Bool.and_eq_true, decide_eq_true_eq] at hc
  exact lowerChar_of_isUncased (List.all_eq_true.mp isUncased_decimalZeros start hstart) hc.1 (by omega)

theorem lowerChar_of_isBlank {c : Char} (h : isBlank c = true) : lowerChar c = [c] := by
  obtain ⟨-, -, hogham, hgeneral, hideographic⟩ := isUncased_gaps
  have hgaps : (c.toNat < 0x41 ∨ 0x5a < c.toNat ∧ c.toNat < 0xc0) ∨ c.toNat = 0x1680 ∨
      (0x2000 ≤ c.toNat ∧ c.toNat ≤ 0x205f) ∨ c.toNat = 0x3000 := by
    simp only [isBlank, Bool.or_eq_true, Bool.and_eq_true, decide_eq_true_eq, beq_iff_eq] at h
    omega
  rcases hgaps with hc | hc | ⟨hlow, hhigh⟩ | hc
  · exact lowerChar_of_lt hc
  · exact lowerChar_of_isUncased hogham hc.ge hc.le
  · exact lowerChar_of_isUncased hgeneral hlow hhigh
  · exact lowerChar_of_isUncased hideographic hc.ge hc.le

theorem lowerChar_of_hexDigit? {c : Char} {d : Nat} (h : hexDigit? c = some d) : lowerChar c = [hexChar d] := by
  have hcapitals : ∀ d < 16, 10 ≤ d → lowerChar (Char.ofNat (0x37 + d)) = [hexChar d] := by decide +kernel
  rcases toNat_of_hexDigit? h with ⟨hd, hc⟩ | ⟨⟨hlow, hhigh⟩, hc | hc⟩
  · rw [lowerChar_of_lt (by omega), hexChar, if_pos hd, ← hc, Char.ofNat_toNat]
  · rw [lowerChar_of_lt (by omega), hexChar, if_neg (by omega), ← hc, Char.ofNat_toNat]
  · rw [← hcapitals d hhigh hlow, ← hc, Char.ofNat_toNat]

theorem exists_lowerAfter_append (before cs ds : List Char) :
    ∃ es, lowerAfter before (cs ++ ds) = es ++ lowerAfter (cs.reverse ++ before) ds := by
  induction cs generalizing before with
  | nil => exact ⟨[], rfl⟩
  | cons c cs ih =>
    obtain ⟨es, hes⟩ := ih (c :: before)
    rw [List.cons_append, lowerAfter, hes, ← List.append_assoc, List.reverse_cons, List.append_assoc _ [c]]
    exact ⟨_, rfl⟩

theorem exists_lowerAfter_concat {c : Char} (h : c ≠ 'Σ') (before cs : List Char) :
    ∃ ds, lowerAfter before (cs ++ [c]) = ds ++ lowerChar c := by
  obtain ⟨ds, hds⟩ := exists_lowerAfter_append before cs [c]
  exact ⟨ds, by simp [hds, lowerAfter, h]⟩

section

variable {c : Char} (before cs : List Char)

theorem exists_lowerAfter_of_isDecimalDigit (h : isDecimalDigit c = true) :
    ∃ ds, lowerAfter before (cs ++ [c]) = ds ++ [c] := by
  have hsigma : c ≠ 'Σ' := by
    rintro rfl
    rw [isDecimalDigit_of_lt (by decide)] at h
    cases h
  obtain ⟨ds, hlower⟩ := exists_lowerAfter_concat hsigma before cs
  exact ⟨ds, by rw [hlower, lowerChar_of_isDecimalDigit h]⟩

theorem exists_lowerAfter_of_hexDigit? {d : Nat} (h : hexDigit? c = some d) :
    ∃ ds, lowerAfter before (cs ++ [c]) = ds ++ [hexChar d] := by
  have hsigma : c ≠ 'Σ' := by
    rintro rfl
    cases h
  obtain ⟨ds, hlower⟩ := exists_lowerAfter_concat hsigma before cs
  exact ⟨ds, by rw [hlower, lowerChar_of_hexDigit? h]⟩

end

end Text
end ConfigLayers
