import ConfigLayers.Proofs.Duration
import ConfigLayers.Proofs.Failing
import ConfigLayers.Proofs.Number.Integer
import ConfigLayers.Proofs.Text.Case
import ConfigLayers.Value

/-! Integers where a suffix is allowed behind them. The suffix is looked for before the number is read, so that the last
digit of a hexadecimal one can be taken for it. -/
namespace ConfigLayers
namespace Value

open Text

section

variable {s : String} {key : Option String} {n : Int}

theorem bounded_eq_ok_iff {low high : Int} {expected : String} :
    bounded low high expected key s = .ok n ↔ Integer.ofText s = .ok n ∧ low ≤ n ∧ n ≤ high := by
  unfold bounded
  cases Integer.ofText s with
  | error e => cases e <;> simp
  | ok m =>
    by_cases hm : low ≤ m ∧ m ≤ high
    · simp only [hm, and_self, if_true, Except.ok.injEq]
      exact ⟨fun h => ⟨h, h ▸ hm⟩, fun h => h.1⟩
    · simp only [hm, if_false, reduceCtorEq, Except.ok.injEq, false_iff]
      rintro ⟨rfl, h⟩
      exact hm h

variable {cs : List Char} {c : Char}

theorem byteCount_eq_ok_iff (ht : trimChars s.toList = cs ++ [c]) (hc : binaryPower? c = none) :
    byteCount s key = .ok n ↔ long s key = .ok n := by
  have hread : Integer.ofText (String.ofList (cs ++ [c])) = Integer.ofText s := by
    rw [Integer.ofText, Integer.ofText, String.toList_ofList, ← ht, trimChars_trimChars]
  rw [byteCount, ht]
  simp only [List.getLast?_concat, hc]
  rw [long, bounded_eq_ok_iff, bounded_eq_ok_iff, hread]

/-- With a suffix it is as many times the integer before it, both of them of 64 bits. -/
theorem byteCount_eq_ok_iff_of_suffix {power : Nat} (ht : trimChars s.toList = cs ++ [c])
    (hc : binaryPower? c = some power) :
    byteCount s key = .ok n ↔
      ∃ m, Integer.read (trimChars cs) = .ok m ∧ (Integer.minLong ≤ m ∧ m ≤ Integer.maxLong) ∧
        n = m * (1024 ^ power : Nat) ∧ Integer.minLong ≤ n ∧ n ≤ Integer.maxLong := by
  have hread : Integer.ofText (String.ofList cs) = Integer.read (trimChars cs) := by
    rw [Integer.ofText, String.toList_ofList]
  rw [byteCount, ht]
  simp only [List.getLast?_concat, hc, List.dropLast_concat]
  constructor
  · intro h
    obtain ⟨m, hm, hn⟩ := exists_of_bind_eq_ok h
    rw [bounded_eq_ok_iff, hread] at hm
    split at hn
    · rename_i hbounds
      cases hn
      exact ⟨m, hm.1, hm.2, rfl, hbounds⟩
    · cases hn
  · rintro ⟨m, hm, hmbounds, rfl, hbounds⟩
    have hplain : bounded Integer.minLong Integer.maxLong "byte count" key (String.ofList cs) = .ok m :=
      bounded_eq_ok_iff.mpr ⟨hread.trans hm, hmbounds⟩
    rw [hplain]
    exact if_pos hbounds

theorem duration_eq_ok_iff {unit : TimeUnit}
    (hsplit : Duration.split unit (trimChars s.toList) = (trimChars s.toList, unit)) :
    Duration.parse s unit key = .ok n ↔ long s key = .ok n := by
  rw [Duration.parse_eq_ok_iff hsplit, trimChars_trimChars, long, bounded_eq_ok_iff]
  simp only [TimeUnit.convert_self]
  constructor
  · rintro ⟨m, hm, hlow, hhigh, rfl⟩
    exact ⟨hm, hlow, hhigh⟩
  · rintro ⟨hn, hlow, hhigh⟩
    exact ⟨n, hn, hlow, hhigh, rfl⟩

end

theorem binaryPower?_eq_none {c a : Char} (h : lowerChar c = [a]) (ha : a ∉ ['k', 'm', 'g', 't', 'p', 'e']) :
    binaryPower? c = none := by
  unfold binaryPower?
  rw [h]
  split
  iterate 6
    rename_i hc
    rw [List.singleton_inj.mp hc] at ha
    exact absurd (by decide) ha
  rfl

theorem binaryPower?_of_isDecimalDigit {c : Char} (h : isDecimalDigit c = true) : binaryPower? c = none := by
  refine binaryPower?_eq_none (lowerChar_of_isDecimalDigit h) fun hc => ?_
  rw [isDecimalDigit_of_mem hc (by decide)] at h
  cases h

theorem binaryPower?_of_hexDigit? {c : Char} {d : Nat} (h : hexDigit? c = some d) :
    binaryPower? c = if d = 14 then some 6 else none := by
  have hlower := lowerChar_of_hexDigit? h
  by_cases hd : d = 14
  · unfold binaryPower?
    rw [if_pos hd, hlower, hd]
    rfl
  · have hletters : ∀ d < 16, d ≠ 14 → hexChar d ∉ ['k', 'm', 'g', 't', 'p', 'e'] := by decide
    rw [if_neg hd]
    exact binaryPower?_eq_none hlower (hletters d (hexDigit?_lt h) hd)

section

variable {s : String} {key : Option String} {n : Int}

theorem exists_concat_of_long (h : long s key = .ok n) :
    ∃ cs c, trimChars s.toList = cs ++ [c] ∧ Integer.read (cs ++ [c]) = .ok n := by
  obtain ⟨hread, -⟩ := bounded_eq_ok_iff.mp h
  rcases List.eq_nil_or_concat' (trimChars s.toList) with ht | ⟨cs, c, ht⟩
  · rw [Integer.ofText, ht] at hread
    cases hread
  · exact ⟨cs, c, ht, ht ▸ hread⟩

theorem byteCount_eq_ok_iff_of_long (h : long s key = .ok n) :
    byteCount s key = .ok n ↔ (trimChars s.toList).getLast? ≠ some 'e' ∧ (trimChars s.toList).getLast? ≠ some 'E' := by
  obtain ⟨cs, c, ht, hread⟩ := exists_concat_of_long h
  have hlast : (trimChars s.toList).getLast? = some c := by rw [ht, List.getLast?_concat]
  simp only [hlast, ne_eq, Option.some.injEq]
  by_cases hc : hexDigit? c = some 14
  · have he : c = 'e' ∨ c = 'E' := eq_of_hexDigit? hc (by decide)
    obtain ⟨negative, k, rfl, hblank, hshorter⟩ := Integer.read_concat_of_letter hread hc (by decide)
    refine iff_of_false (fun hb => ?_) (by tauto)
    obtain ⟨m, hm, -, hn, -⟩ := (byteCount_eq_ok_iff_of_suffix ht (binaryPower?_of_hexDigit? hc)).mp hb
    rw [trimChars_eq_self hblank] at hm
    rw [hshorter m hm] at hn
    -- The sixth power of 1024 takes `k` to a multiple of it, which `k * 16 + 14` is not.
    cases negative <;> simp only [Integer.signed] at hn <;> omega
  · have hplain : binaryPower? c = none := by
      obtain hdigit | ⟨-, -, d, hd, -⟩ := Integer.read_concat hread
      · exact binaryPower?_of_isDecimalDigit hdigit
      · rw [binaryPower?_of_hexDigit? hd, if_neg]
        rintro rfl
        exact hc hd
    refine iff_of_true ((byteCount_eq_ok_iff ht hplain).mpr h) ⟨?_, ?_⟩
    · rintro rfl
      exact hc rfl
    · rintro rfl
      exact hc rfl

theorem duration_eq_ok_iff_of_long (h : long s key = .ok n) (unit : TimeUnit) :
    Duration.parse s unit key = .ok n ↔
      (trimChars s.toList).getLast? ≠ some 'd' ∧ (trimChars s.toList).getLast? ≠ some 'D' := by
  obtain ⟨cs, c, ht, hread⟩ := exists_concat_of_long h
  have hlast : (trimChars s.toList).getLast? = some c := by rw [ht, List.getLast?_concat]
  simp only [hlast, ne_eq, Option.some.injEq]
  by_cases hc : hexDigit? c = some 13
  · have hd : c = 'd' ∨ c = 'D' := eq_of_hexDigit? hc (by decide)
    obtain ⟨negative, k, rfl, hblank, hshorter⟩ := Integer.read_concat_of_letter hread hc (by decide)
    refine iff_of_false (fun hb => ?_) (by tauto)
    have hsplit : Duration.split unit (trimChars s.toList) = (cs, .days) := ht ▸ Duration.split_concat_of_hexDigit? hc
    obtain ⟨m, hm, -, -, hn⟩ := (Duration.parse_eq_ok_iff hsplit).mp hb
    rw [trimChars_eq_self hblank] at hm
    rw [hshorter m hm, TimeUnit.convert_of_le (TimeUnit.nanos_le_days unit)] at hn
    cases negative <;> cases unit <;> simp only [Integer.signed, TimeUnit.nanos] at hn <;> omega
  · have hplain : Duration.split unit (cs ++ [c]) = (cs ++ [c], unit) := by
      obtain hdigit | ⟨-, -, d, hd, -⟩ := Integer.read_concat hread
      · exact Duration.split_concat_of_isDecimalDigit hdigit
      · rw [Duration.split_concat_of_hexDigit? hd, if_neg]
        rintro rfl
        exact hc hd
    refine iff_of_true ((duration_eq_ok_iff (ht ▸ hplain)).mpr h) ⟨?_, ?_⟩
    · rintro rfl
      exact hc rfl
    · rintro rfl
      exact hc rfl

/-- Where a suffix is allowed behind it, an integer is read as the same integer, unless it is a hexadecimal one whose
last digit is a suffix: `e` of a number of bytes, `d` of a duration. -/
theorem integer_without_suffix (h : long s key = .ok n) :
    (byteCount s key = .ok n ↔
      (trimChars s.toList).getLast? ≠ some 'e' ∧ (trimChars s.toList).getLast? ≠ some 'E') ∧
    ∀ unit, Duration.parse s unit key = .ok n ↔
      (trimChars s.toList).getLast? ≠ some 'd' ∧ (trimChars s.toList).getLast? ≠ some 'D' :=
  ⟨byteCount_eq_ok_iff_of_long h, duration_eq_ok_iff_of_long h⟩

end

theorem integer_without_suffix_hex :
    byteCount " 0x1C " none = .ok 28 ∧ ∀ unit, Duration.parse " 0x1C " unit none = .ok 28 := by
  have hlong : long " 0x1C " none = .ok 28 := by rfl
  have hlast : (trimChars " 0x1C ".toList).getLast? = some 'C' := by decide
  obtain ⟨hbytes, hduration⟩ := integer_without_suffix hlong
  rw [hlast] at hbytes hduration
  exact ⟨hbytes.mpr (by decide), fun unit => (hduration unit).mpr (by decide)⟩

/-- A last digit that is taken for a suffix multiplies what stands before it, or leaves nothing to be read. -/
theorem hexadecimal_digit_is_suffix :
    (long "0x1e" none = .ok 30 ∧ byteCount "0x1e" none = .ok 1152921504606846976) ∧
      (long "0x1d" none = .ok 29 ∧ Duration.parse "0x1d" .hours none = .ok 24) ∧
      long "0xd" none = .ok 13 ∧ ∀ n, Duration.parse "0xd" .hours none ≠ .ok n := by
  refine ⟨⟨by rfl, ?_⟩, ⟨by rfl, ?_⟩, by rfl, ?_⟩
  · have ht : trimChars "0x1e".toList = ['0', 'x', '1'] ++ ['e'] := by decide
    have hc : binaryPower? 'e' = some 6 := binaryPower?_of_hexDigit? (d := 14) rfl
    exact (byteCount_eq_ok_iff_of_suffix ht hc).mpr ⟨1, by rfl, by decide, by decide, by decide⟩
  · have ht : trimChars "0x1d".toList = ['0', 'x', '1'] ++ ['d'] := by decide
    have hsplit : Duration.split .hours (trimChars "0x1d".toList) = (['0', 'x', '1'], .days) :=
      ht ▸ Duration.split_concat_of_hexDigit? (d := 13) rfl
    exact (Duration.parse_eq_ok_iff hsplit).mpr ⟨1, by rfl, by decide, by decide, by decide⟩
  · intro n hn
    have ht : trimChars "0xd".toList = ['0', 'x'] ++ ['d'] := by decide
    have hsplit : Duration.split .hours (trimChars "0xd".toList) = (['0', 'x'], .days) :=
      ht ▸ Duration.split_concat_of_hexDigit? (d := 13) rfl
    obtain ⟨m, hm, -⟩ := (Duration.parse_eq_ok_iff hsplit).mp hn
    cases hm

end Value
end ConfigLayers
