import ConfigLayers.Proofs.Number.Numeral
import ConfigLayers.Proofs.Text.Lower
import ConfigLayers.Proofs.TimeUnit

/-! Where a text is parted into a number and the suffix of a unit, and what amounts to a duration. -/
namespace ConfigLayers
namespace TimeUnit

theorem getLast?_suffix {u : TimeUnit} {cs : List Char} {c : Char}
    (h : u.suffix.toList.isSuffixOf (cs ++ [c]) = true) : u.suffix.toList.getLast? = some c := by
  obtain ⟨before, happend⟩ := List.isSuffixOf_iff_suffix.mp h
  have hlast : (before ++ u.suffix.toList).getLast? = some c := by rw [happend, List.getLast?_concat]
  rw [List.getLast?_append] at hlast
  cases u <;> exact hlast

theorem getLast?_suffix_ne_of_isDecimalDigit {c : Char} (h : Text.isDecimalDigit c = true) (u : TimeUnit) :
    u.suffix.toList.getLast? ≠ some c := by
  intro hlast
  have hmem := List.mem_of_getLast? hlast
  rw [Text.isDecimalDigit_of_mem hmem (by cases u <;> decide)] at h
  cases h

theorem getLast?_suffix_ne_hexChar {d : Nat} (hd : d < 16) (hne : d ≠ 13) (u : TimeUnit) :
    u.suffix.toList.getLast? ≠ some (Text.hexChar d) := by
  have hnone : ∀ d < 16, d ≠ 13 → ∀ u ∈ all, u.suffix.toList.getLast? ≠ some (Text.hexChar d) := by decide
  exact hnone d hd hne u (by cases u <;> decide)

/-- The suffix of a unit in any letter case. -/
def IsSuffix (u : TimeUnit) (cs : List Char) : Prop :=
  Text.lowerAfter [] cs = u.suffix.toList

section

variable {u : TimeUnit} {cs : List Char}

theorem isSuffix_suffix (u : TimeUnit) : u.IsSuffix u.suffix.toList := by
  have hletters : (u.suffix.toList.all fun c => 'a'.toNat ≤ c.toNat && c.toNat ≤ 'z'.toNat) = true := by
    cases u <;> decide
  simp only [List.all_eq_true, Bool.and_eq_true, decide_eq_true_eq] at hletters
  refine Text.lowerAfter_eq_self (fun c hc => ?_) []
  obtain ⟨hlow, hhigh⟩ := hletters c hc
  exact Text.lowerChar_of_lt (.inr ⟨Nat.lt_of_lt_of_le (by decide) hlow, Nat.lt_of_le_of_lt hhigh (by decide)⟩)

theorem IsSuffix.lowers (h : u.IsSuffix cs) : Text.Lowers cs u.suffix.toList :=
  h ▸ Text.lowers_lowerAfter [] cs

theorem isSuffix_of_lowers (h : Text.Lowers cs u.suffix.toList) (before : List Char) :
    Text.lowerAfter before cs = u.suffix.toList := by
  refine h.lowerAfter ?_ ?_ before
  · cases u <;> decide
  · cases u <;> decide

theorem dot_notMem_suffix (u : TimeUnit) : '\u0307' ∉ u.suffix.toList := by
  cases u <;> decide

theorem IsSuffix.length_eq (h : u.IsSuffix cs) : cs.length = u.suffix.length := by
  rw [← h.lowers.length_eq u.dot_notMem_suffix, String.length_toList]

theorem IsSuffix.isBlank (h : u.IsSuffix cs) : ∀ c ∈ cs, Text.isBlank c = false := by
  intro c hc
  have hletters : (u.suffix.toList.all fun a => !Text.isBlank a) = true := by cases u <;> decide
  obtain ⟨form, hform, hmem⟩ := h.lowers.exists_form hc
  rw [Bool.eq_false_iff]
  intro hblank
  have hne : c ≠ 'Σ' := by
    rintro rfl
    revert hblank
    decide
  rw [Text.IsLower, if_neg hne, Text.lowerChar_of_isBlank hblank] at hform
  have hnot := List.all_eq_true.mp hletters c (hmem c (hform ▸ List.mem_singleton_self c))
  simp [hblank] at hnot

theorem IsSuffix.ne_nil (h : u.IsSuffix cs) : cs ≠ [] := by
  rintro rfl
  cases u <;> cases h

end

/-- The units whose suffixes are tried before that of a unit. -/
def before (u : TimeUnit) : List TimeUnit :=
  all.takeWhile (· ≠ u)

theorem eq_letter_of_mem_before {u v : TimeUnit} (hv : v ∈ u.before) {ds : List Char} {c : Char}
    (h : v.suffix.toList <:+ ds ++ c :: u.suffix.toList) : c = 'n' ∨ c = 'u' ∨ c = 'm' := by
  have hlonger : ∀ u ∈ all, ∀ v ∈ u.before, v.suffix.toList.length ≤ u.suffix.toList.length + 1 ∧
      ¬ v.suffix.toList <:+ u.suffix.toList ∧
      (v.suffix.toList.tail = u.suffix.toList → v.suffix.toList.head? ∈ [some 'n', some 'u', some 'm']) := by
    decide
  obtain ⟨hlength, hnot, hfirst⟩ := hlonger u (by cases u <;> decide) v hv
  have hend : v.suffix.toList <:+ c :: u.suffix.toList :=
    List.suffix_of_suffix_length_le h (List.suffix_append ds _) hlength
  rcases List.suffix_cons_iff.mp hend with heq | hsuffix
  · simpa [heq] using hfirst
  · exact absurd hsuffix hnot

end TimeUnit

namespace Duration

open Text

variable {asked : TimeUnit} {cs ds : List Char} {c : Char}

theorem split_eq_self (hlower : lowerAfter [] cs = ds ++ [c])
    (h : ∀ u : TimeUnit, u.suffix.toList.getLast? ≠ some c) : split asked cs = (cs, asked) := by
  have hnone : (TimeUnit.all.find? fun u => u.suffix.toList.isSuffixOf (lowerAfter [] cs)) = none := by
    rw [List.find?_eq_none, hlower]
    exact fun u _ hu => h u (TimeUnit.getLast?_suffix hu)
  rw [split, hnone]

theorem split_concat_eq_days (hlower : lowerAfter [] (cs ++ [c]) = ds ++ ['d']) :
    split asked (cs ++ [c]) = (cs, .days) := by
  have hshorter : ∀ u ∈ TimeUnit.all.dropLast, u.suffix.toList.getLast? ≠ some 'd' := by decide
  have hdays : (TimeUnit.all.find? fun u => u.suffix.toList.isSuffixOf (lowerAfter [] (cs ++ [c]))) = some .days := by
    rw [List.find?_eq_some_iff_append, hlower]
    refine ⟨List.isSuffixOf_iff_suffix.mpr ⟨ds, rfl⟩, TimeUnit.all.dropLast, [], rfl, ?_⟩
    intro u hu
    rw [Bool.not_eq_true', Bool.eq_false_iff]
    exact fun hsuffix => hshorter u hu (TimeUnit.getLast?_suffix hsuffix)
  have hlength : TimeUnit.days.suffix.length = 1 := rfl
  rw [split, hdays]
  simp [hlength]

theorem split_append_of_ne {u : TimeUnit} {suffix : List Char} (hs : u.IsSuffix suffix) (hc : lowerChar c = [c])
    (hne : c ≠ 'n' ∧ c ≠ 'u' ∧ c ≠ 'm') : split asked (cs ++ [c] ++ suffix) = (cs ++ [c], u) := by
  have hsigma := ne_sigma_of_lowerChar hc
  obtain ⟨ds, hds⟩ := exists_lowerAfter_append [] cs (c :: suffix)
  have hlower : lowerAfter [] (cs ++ [c] ++ suffix) = ds ++ c :: u.suffix.toList := by
    rw [List.append_assoc, List.singleton_append, hds, lowerAfter, TimeUnit.isSuffix_of_lowers hs.lowers, hc]
    simp [hsigma]
  have hfind : (TimeUnit.all.find? fun v => v.suffix.toList.isSuffixOf (lowerAfter [] (cs ++ [c] ++ suffix))) =
      some u := by
    rw [List.find?_eq_some_iff_append, hlower]
    refine ⟨?_, u.before, (TimeUnit.all.dropWhile (· ≠ u)).tail, by cases u <;> rfl, fun v hv => ?_⟩
    · rw [List.isSuffixOf_iff_suffix]
      exact (List.suffix_cons c _).trans (List.suffix_append ds _)
    · rw [Bool.not_eq_true', Bool.eq_false_iff, ne_eq, List.isSuffixOf_iff_suffix]
      intro hsuffix
      rcases TimeUnit.eq_letter_of_mem_before hv hsuffix with hn | hu | hm
      · exact hne.1 hn
      · exact hne.2.1 hu
      · exact hne.2.2 hm
  rw [split, hfind]
  dsimp only
  rw [← hs.length_eq, List.length_append, Nat.add_sub_cancel, List.take_left]

theorem split_append {u : TimeUnit} {number suffix digits : List Char} {negative : Bool} (hs : u.IsSuffix suffix)
    (hn : Integer.IsSigned digits negative (trimChars number)) (hne : digits ≠ [])
    (hd : ∀ c ∈ digits, isDecimalDigit c = true) : split asked (number ++ suffix) = (number, u) := by
  have hletters : ∀ c, isBlank c = true ∨ isDecimalDigit c = true →
      lowerChar c = [c] ∧ c ≠ 'n' ∧ c ≠ 'u' ∧ c ≠ 'm' := by
    have hblank : (['n', 'u', 'm'].all fun a => !isBlank a) = true := by decide
    have hnone : ∀ a ∈ ['n', 'u', 'm'], isBlank a = false ∧ isDecimalDigit a = false := fun a ha =>
      ⟨(Bool.not_eq_true' _).mp (List.all_eq_true.mp hblank a ha), isDecimalDigit_of_mem ha (by decide)⟩
    intro c hc
    refine ⟨hc.elim lowerChar_of_isBlank lowerChar_of_isDecimalDigit, ?_, ?_, ?_⟩
    all_goals
      rintro rfl
      simp [hnone] at hc
  obtain ⟨before, after, -, hafter, hnumber⟩ := exists_eq_trimChars number
  obtain ⟨ds, d, hdigit, htrimmed⟩ := hn.exists_concat hne
  obtain ⟨cs, c, rfl, hc⟩ : ∃ cs c, number = cs ++ [c] ∧ (isBlank c = true ∨ isDecimalDigit c = true) := by
    rcases List.eq_nil_or_concat' after with rfl | ⟨as, a, rfl⟩
    · exact ⟨before ++ ds, d, by rw [hnumber, htrimmed]; simp, .inr (hd d hdigit)⟩
    · exact ⟨before ++ trimChars number ++ as, a, by simpa using hnumber, .inl (hafter a (by simp))⟩
  obtain ⟨hlower, hother⟩ := hletters c hc
  exact split_append_of_ne hs hlower hother

theorem exists_of_split {number : List Char} {source : TimeUnit} (h : split asked cs = (number, source)) :
    cs = number ∨ ∃ suffix, source.IsSuffix suffix ∧ cs = number ++ suffix := by
  unfold split at h
  split at h
  · rename_i u hu
    obtain ⟨hnumber, rfl⟩ := Prod.mk.inj h
    have hend := List.find?_some hu
    obtain ⟨ds, hds⟩ := List.isSuffixOf_iff_suffix.mp hend
    have hlowers : Lowers cs (ds ++ u.suffix.toList) := hds ▸ lowers_lowerAfter [] cs
    obtain ⟨before, suffix, rfl, -, hs⟩ := hlowers.exists_append u.dot_notMem_suffix
    have hsuffix : u.IsSuffix suffix := TimeUnit.isSuffix_of_lowers hs []
    rw [← hsuffix.length_eq, List.length_append, Nat.add_sub_cancel, List.take_left] at hnumber
    exact .inr ⟨suffix, hsuffix, hnumber ▸ rfl⟩
  · exact .inl (Prod.mk.inj h).1

theorem split_concat_of_isDecimalDigit (h : isDecimalDigit c = true) :
    split asked (cs ++ [c]) = (cs ++ [c], asked) := by
  obtain ⟨ds, hlower⟩ := exists_lowerAfter_of_isDecimalDigit [] cs h
  exact split_eq_self hlower (TimeUnit.getLast?_suffix_ne_of_isDecimalDigit h)

theorem split_concat_of_hexDigit? {d : Nat} (h : hexDigit? c = some d) :
    split asked (cs ++ [c]) = if d = 13 then (cs, .days) else (cs ++ [c], asked) := by
  obtain ⟨ds, hlower⟩ := exists_lowerAfter_of_hexDigit? [] cs h
  split
  · rename_i hd
    rw [hd] at hlower
    exact split_concat_eq_days hlower
  · rename_i hd
    exact split_eq_self hlower (TimeUnit.getLast?_suffix_ne_hexChar (hexDigit?_lt h) hd)

theorem parse_eq_ok_iff {s : String} {key : Option String} {number : List Char} {source : TimeUnit} {n : Int}
    (hsplit : split asked (trimChars s.toList) = (number, source)) :
    parse s asked key = .ok n ↔
      ∃ m, Integer.read (trimChars number) = .ok m ∧ Integer.minLong ≤ m ∧ m ≤ Integer.maxLong ∧
        asked.convert m source = n := by
  rw [parse, hsplit]
  dsimp only
  cases Integer.read (trimChars number) with
  | error e => cases e <;> simp
  | ok m =>
    by_cases hm : Integer.minLong ≤ m ∧ m ≤ Integer.maxLong
    · simp [hm]
    · simp only [hm, if_false, reduceCtorEq, false_iff]
      rintro ⟨m', hm', hlow, hhigh, -⟩
      cases hm'
      exact hm ⟨hlow, hhigh⟩

section

variable {u : TimeUnit} {amount : Int} {between suffix : List Char}

theorem trimChars_amount (hs : u.IsSuffix suffix) :
    trimChars ((Integer.text amount).toList ++ between ++ suffix) = (Integer.text amount).toList ++ between ++ suffix :=
  trimChars_of_ends (Integer.text_ne_nil amount) hs.ne_nil Integer.isBlank_of_mem_text hs.isBlank between

theorem toList_format (amount : Int) (u : TimeUnit) :
    (format amount u).toList = (Integer.text amount).toList ++ [] ++ u.suffix.toList := by
  rw [format, String.toList_append, List.append_nil]

theorem trim_format (amount : Int) (u : TimeUnit) : trim (format amount u) = format amount u := by
  rw [trim, toList_format, trimChars_amount (TimeUnit.isSuffix_suffix u), ← toList_format, String.ofList_toList]

/-- An amount with a suffix in any letter case is read in its unit and converted, whatever blanks are around it and in
front of the suffix. -/
theorem parse_append (hlow : Integer.minLong ≤ amount) (hhigh : amount ≤ Integer.maxLong)
    {s : String} {before after : List Char} (hs : u.IsSuffix suffix)
    (hb : ∀ c ∈ before, isBlank c = true) (hm : ∀ c ∈ between, isBlank c = true) (ha : ∀ c ∈ after, isBlank c = true)
    (hcs : s.toList = before ++ ((Integer.text amount).toList ++ between ++ suffix) ++ after) (key : Option String) :
    parse s asked key = .ok (asked.convert amount u) := by
  have hnumber : trimChars ((Integer.text amount).toList ++ between) = (Integer.text amount).toList := by
    have hnone : ∀ c ∈ ([] : List Char), isBlank c = true := fun _ hc => absurd hc List.not_mem_nil
    have hbetween := trimChars_between hnone hm (Integer.text amount).toList
    rw [List.nil_append] at hbetween
    rw [hbetween, trimChars_eq_self Integer.isBlank_of_mem_text]
  have hsplit : split asked ((Integer.text amount).toList ++ between ++ suffix) =
      ((Integer.text amount).toList ++ between, u) := by
    refine split_append hs (hnumber ▸ Integer.isSigned_text amount) (Integer.digitsOf_ne_nil _) fun c hc => ?_
    exact isDecimalDigit_of_isAsciiDigit (Integer.isAsciiDigit_of_mem_digitsOf hc)
  rw [← trimChars_amount hs, ← trimChars_between hb ha, ← hcs] at hsplit
  refine (parse_eq_ok_iff hsplit).mpr ⟨amount, ?_, hlow, hhigh, rfl⟩
  rw [hnumber, Integer.read_text hlow hhigh]

end

end Duration
end ConfigLayers
