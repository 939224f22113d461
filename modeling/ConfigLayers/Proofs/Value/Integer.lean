import ConfigLayers.Proofs.Number.Numeral
import ConfigLayers.Proofs.Value.Suffix

/-! Integers of 32 and of 64 bits: which texts are read as one, and how the others are refused. -/
namespace ConfigLayers
namespace Value

open Text Integer

section

variable {low high n : Int} {expected s : String} {key : Option String}

theorem bounded_of_isOverlong (h : IsOverlong (trimChars s.toList)) :
    bounded low high expected key s = .error .tooManyDigits := by
  rw [bounded, ofText, h.read]

theorem bounded_eq_tooManyDigits_iff :
    bounded low high expected key s = .error .tooManyDigits ↔ IsOverlong (trimChars s.toList) := by
  refine ⟨fun h => ?_, bounded_of_isOverlong⟩
  unfold bounded at h
  split at h
  · rename_i hread
    exact read_eq_tooManyDigits_iff.mp hread
  · cases h
  · split at h <;> cases h

theorem bounded_of_not_isOverlong (hlong : ¬ IsOverlong (trimChars s.toList))
    (h : ∀ n, bounded low high expected key s ≠ .ok n) :
    bounded low high expected key s = .error (.invalidValue key s expected) := by
  unfold bounded at h ⊢
  cases hread : ofText s with
  | error e =>
    cases e with
    | malformed => rfl
    | tooManyDigits => exact absurd (read_eq_tooManyDigits_iff.mp hread) hlong
  | ok n =>
    simp only [hread] at h ⊢
    split
    · rename_i hbounds
      exact absurd (if_pos hbounds) (h n)
    · rfl

theorem bounded_eq_ok_iff_isNumeral (hlong : ¬ IsOverlong (trimChars s.toList)) :
    bounded low high expected key s = .ok n ↔ IsNumeral (trimChars s.toList) n ∧ low ≤ n ∧ n ≤ high := by
  rw [bounded_eq_ok_iff, ofText, read_eq_ok_iff]
  simp [hlong]

end

theorem bounds_long : minLong = -2 ^ 63 ∧ maxLong = 2 ^ 63 - 1 := by decide

theorem bounds_int : minInt = -2 ^ 31 ∧ maxInt = 2 ^ 31 - 1 := by decide

/-- The texts of integers. A text with no more than 4300 decimal digits is read as an integer of 64 bits exactly if it
is a numeral between blanks for one, and refused as a value of its name else; of 32 bits if it is one of 64 bits within
the narrower bounds. What is printed is read back, whatever blanks are put around it. -/
theorem integer_grammar {s : String} (hs : s.toList.countP isDecimalDigit ≤ 4300) (key : Option String) :
    (∀ n, long s key = .ok n ↔ IsNumeral (trimChars s.toList) n ∧ -2 ^ 63 ≤ n ∧ n ≤ 2 ^ 63 - 1) ∧
    ((∀ n, long s key ≠ .ok n) → long s key = .error (.invalidValue key s "long")) ∧
    (∀ n, int s key = .ok n ↔ long s key = .ok n ∧ -2 ^ 31 ≤ n ∧ n ≤ 2 ^ 31 - 1) ∧
    ((∀ n, int s key ≠ .ok n) → int s key = .error (.invalidValue key s "int")) ∧
    ∀ (n : Int) (before after : String),
      (∀ c ∈ before.toList, isBlank c = true) → (∀ c ∈ after.toList, isBlank c = true) →
      (-2 ^ 63 ≤ n ∧ n ≤ 2 ^ 63 - 1 → long (before ++ text n ++ after) key = .ok n) ∧
      (-2 ^ 31 ≤ n ∧ n ≤ 2 ^ 31 - 1 → int (before ++ text n ++ after) key = .ok n) := by
  have hlong : ¬ IsOverlong (trimChars s.toList) := by
    obtain ⟨before, after, -, -, hcs⟩ := exists_eq_trimChars s.toList
    refine not_isOverlong_of_countP (Nat.le_trans (List.Sublist.countP_le ?_) hs)
    conv_rhs => rw [hcs]
    exact (List.sublist_append_right before _).trans (List.sublist_append_left _ after)
  simp only [← bounds_long.1, ← bounds_long.2, ← bounds_int.1, ← bounds_int.2]
  have hnarrow : minLong ≤ minInt ∧ maxInt ≤ maxLong := by decide
  refine ⟨fun n => bounded_eq_ok_iff_isNumeral hlong, bounded_of_not_isOverlong hlong, fun n => ?_,
    bounded_of_not_isOverlong hlong, fun n before after hb ha => ⟨fun hn => ?_, fun hn => ?_⟩⟩
  · rw [int, long, bounded_eq_ok_iff, bounded_eq_ok_iff]
    constructor
    · rintro ⟨hread, hlow, hhigh⟩
      exact ⟨⟨hread, by omega, by omega⟩, hlow, hhigh⟩
    · rintro ⟨⟨hread, -⟩, hn⟩
      exact ⟨hread, hn⟩
  · exact bounded_eq_ok_iff.mpr ⟨ofText_text hn.1 hn.2 hb ha, hn⟩
  · exact bounded_eq_ok_iff.mpr ⟨ofText_text (by omega) (by omega) hb ha, hn⟩

/-- Digits of two scripts behind a minus, a hexadecimal integer that is too large for 32 bits, and the least integer
between blanks. -/
theorem integer_grammar_scripts :
    long " -٣4\n" none = .ok (-34) ∧
      (long "0XfFFFFFFF" none = .ok 4294967295 ∧
        int "0XfFFFFFFF" none = .error (.invalidValue none "0XfFFFFFFF" "int")) ∧
      long ("\t" ++ text (-2 ^ 63) ++ " ") none = .ok (-2 ^ 63) := by
  have hmixed : IsNumeral (trimChars " -٣4\n".toList) (-34) := by
    have ht : trimChars " -٣4\n".toList = '-' :: ['٣', '4'] := by decide
    have hd : Denotes 10 decimalDigit? ['٣', '4'] 34 := ⟨by decide, [3, 4], by decide, by decide⟩
    rw [ht]
    exact .decimal .minus hd
  have hhex : IsNumeral (trimChars "0XfFFFFFFF".toList) 4294967295 := by
    have ht : trimChars "0XfFFFFFFF".toList = hexPrefix false 'X' ++ "fFFFFFFF".toList := by decide
    have hd : Denotes 16 hexDigit? "fFFFFFFF".toList 4294967295 :=
      ⟨by decide, List.replicate 8 15, by decide, by decide⟩
    rw [ht]
    exact .hexadecimal (.inr rfl) hd
  obtain ⟨hdecimal, -, -, -, hprinted⟩ := integer_grammar (s := " -٣4\n") (by decide) none
  obtain ⟨hlong, -, hint, hrefused, -⟩ := integer_grammar (s := "0XfFFFFFFF") (by decide) none
  have hread : long "0XfFFFFFFF" none = .ok 4294967295 := (hlong _).mpr ⟨hhex, by decide, by decide⟩
  refine ⟨(hdecimal _).mpr ⟨hmixed, by decide, by decide⟩, ⟨hread, hrefused fun n hn => ?_⟩,
    (hprinted _ "\t" " " (List.all_eq_true.mp (by decide)) (List.all_eq_true.mp (by decide))).1 (by decide)⟩
  obtain ⟨hn, -, hhigh⟩ := (hint n).mp hn
  obtain rfl : 4294967295 = n := Except.ok.inj (hread.symm.trans hn)
  exact absurd hhigh (by decide)

end Value
end ConfigLayers
