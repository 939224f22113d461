import ConfigLayers.Proofs.Number.Digits
import ConfigLayers.Proofs.Number.Integer

/-! Which texts are integers, and which number they denote. A text is read exactly if it is one, but for decimal ones
with too many digits. -/
namespace ConfigLayers
namespace Integer

open Text

/-- Digits with an optional sign in front of them. -/
inductive IsSigned (digits : List Char) : Bool → List Char → Prop where
  | plain : IsSigned digits false digits
  | plus : IsSigned digits false ('+' :: digits)
  | minus : IsSigned digits true ('-' :: digits)

/-- An integer with nothing around it: decimal digits of any script with an optional sign, or hexadecimal digits behind
`0x` with an optional minus. -/
inductive IsNumeral : List Char → Int → Prop where
  | decimal {digits cs : List Char} {negative : Bool} {n : Nat} (hs : IsSigned digits negative cs)
      (hd : Denotes 10 decimalDigit? digits n) : IsNumeral cs (signed negative n)
  | hexadecimal {digits : List Char} {negative : Bool} {x : Char} {n : Nat} (hx : x = 'x' ∨ x = 'X')
      (hd : Denotes 16 hexDigit? digits n) : IsNumeral (hexPrefix negative x ++ digits) (signed negative n)

/-- More decimal digits than an integer may have, with an optional sign. -/
def IsOverlong (cs : List Char) : Prop :=
  ∃ digits negative, IsSigned digits negative cs ∧ (∀ c ∈ digits, isDecimalDigit c = true) ∧ maxDigits < digits.length

theorem unsigned?_eq_some_iff {cs : List Char} {n : Nat} : unsigned? cs = some n ↔ Denotes 10 decimalDigit? cs n := by
  cases cs with
  | nil => simp [unsigned?, Denotes]
  | cons c cs => exact ofDigits?_eq_some_iff (List.cons_ne_nil c cs)

theorem unsignedHex?_eq_some_iff {cs : List Char} {n : Nat} :
    unsignedHex? cs = some n ↔ Denotes 16 hexDigit? cs n := by
  cases cs with
  | nil => simp [unsignedHex?, Denotes]
  | cons c cs => exact ofDigits?_eq_some_iff (List.cons_ne_nil c cs)

theorem IsSigned.exists_concat {digits cs : List Char} {negative : Bool} (h : IsSigned digits negative cs)
    (hne : digits ≠ []) : ∃ ds, ∃ d ∈ digits, cs = ds ++ [d] := by
  obtain ⟨ds, d, rfl⟩ := (List.eq_nil_or_concat' digits).resolve_left hne
  have hd : d ∈ ds ++ [d] := List.mem_append_right ds (List.mem_singleton_self d)
  cases h with
  | plain => exact ⟨ds, d, hd, rfl⟩
  | plus => exact ⟨'+' :: ds, d, hd, rfl⟩
  | minus => exact ⟨'-' :: ds, d, hd, rfl⟩

theorem isSigned_splitSign (cs : List Char) : IsSigned (splitSign cs).2 (splitSign cs).1 cs := by
  unfold splitSign
  split
  · exact .minus
  · exact .plus
  · exact .plain

section

variable {digits cs : List Char} {negative : Bool}

theorem splitSign_of_isSigned (hs : IsSigned digits negative cs) (hd : ∀ c ∈ digits, isDecimalDigit c = true) :
    splitSign cs = (negative, digits) := by
  have hsigns : ∀ c ∈ ['-', '+'], isDecimalDigit c = false := fun c hc => isDecimalDigit_of_mem hc (by decide)
  cases hs with
  | plus => rfl
  | minus => rfl
  | plain =>
    unfold splitSign
    split
    · simp [hsigns] at hd
    · simp [hsigns] at hd
    · rfl

theorem hex?_of_isSigned (hs : IsSigned digits negative cs) (hd : ∀ c ∈ digits, isDecimalDigit c = true) :
    hex? cs = none := by
  rw [Option.eq_none_iff_forall_ne_some]
  intro n hn
  obtain ⟨negative', x, ds, k, hx, rfl, -⟩ := exists_of_hex? hn
  have hmem : x ∈ digits := by
    have hcs : x ∈ hexPrefix negative' x ++ ds := by cases negative' <;> simp [hexPrefix]
    have hsign : x ≠ '+' ∧ x ≠ '-' := by rcases hx with rfl | rfl <;> decide
    generalize hexPrefix negative' x ++ ds = cs at hs hcs
    cases hs with
    | plain => exact hcs
    | plus => exact (List.mem_cons.mp hcs).resolve_left hsign.1
    | minus => exact (List.mem_cons.mp hcs).resolve_left hsign.2
  have hletter : x ∈ ['x', 'X'] := by simpa using hx
  have hdigit := hd x hmem
  rw [isDecimalDigit_of_mem hletter (by decide)] at hdigit
  cases hdigit

theorem read_of_isSigned {n : Nat} (hs : IsSigned digits negative cs) (hd : Denotes 10 decimalDigit? digits n) :
    read cs = if digits.length ≤ maxDigits then .ok (signed negative n) else .error .tooManyDigits := by
  have hdigits : ∀ c ∈ digits, isDecimalDigit c = true := isSome_of_denotes hd
  rw [read, hex?_of_isSigned hs hdigits, decimal, splitSign_of_isSigned hs hdigits]
  dsimp only
  rw [unsigned?_eq_some_iff.mpr hd]

end

section

variable {cs : List Char}

theorem IsOverlong.read (h : IsOverlong cs) : Integer.read cs = .error .tooManyDigits := by
  obtain ⟨digits, negative, hs, hdigits, hlong⟩ := h
  have hne : digits ≠ [] := List.ne_nil_of_length_pos (Nat.zero_lt_of_lt hlong)
  obtain ⟨n, hd⟩ := exists_denotes hne hdigits
  rw [read_of_isSigned hs hd, if_neg (Nat.not_le.mpr hlong)]

theorem IsOverlong.exists_concat (h : IsOverlong cs) : ∃ ds d, cs = ds ++ [d] ∧ isDecimalDigit d = true := by
  obtain ⟨digits, negative, hs, hdigits, hlong⟩ := h
  obtain ⟨ds, d, hd, hcs⟩ := hs.exists_concat (List.ne_nil_of_length_pos (Nat.zero_lt_of_lt hlong))
  exact ⟨ds, d, hcs, hdigits d hd⟩

theorem read_eq_tooManyDigits_iff : read cs = .error .tooManyDigits ↔ IsOverlong cs := by
  refine ⟨fun h => ?_, IsOverlong.read⟩
  rw [read] at h
  cases hhex : hex? cs with
  | some n =>
    rw [hhex] at h
    cases h
  | none =>
    rw [hhex] at h
    dsimp only [decimal] at h
    cases hu : unsigned? (splitSign cs).2 with
    | none => simp [hu] at h
    | some n =>
      simp only [hu] at h
      split at h
      · cases h
      · rename_i hlong
        exact ⟨_, _, isSigned_splitSign cs, isSome_of_denotes (unsigned?_eq_some_iff.mp hu), Nat.not_le.mp hlong⟩

theorem read_eq_ok_iff {n : Int} : read cs = .ok n ↔ IsNumeral cs n ∧ ¬ IsOverlong cs := by
  constructor
  · intro h
    refine ⟨?_, fun hlong => by simp [hlong.read] at h⟩
    rw [read] at h
    cases hhex : hex? cs with
    | some m =>
      rw [hhex] at h
      cases h
      obtain ⟨negative, x, digits, k, hx, rfl, hk, rfl⟩ := exists_of_hex? hhex
      exact .hexadecimal hx (unsignedHex?_eq_some_iff.mp hk)
    | none =>
      rw [hhex] at h
      dsimp only [decimal] at h
      cases hu : unsigned? (splitSign cs).2 with
      | none => simp [hu] at h
      | some k =>
        simp only [hu] at h
        split at h
        · cases h
          exact .decimal (isSigned_splitSign cs) (unsigned?_eq_some_iff.mp hu)
        · cases h
  · rintro ⟨hn, hlong⟩
    cases hn with
    | @decimal digits _ negative n hs hd =>
      rw [read_of_isSigned hs hd, if_pos]
      by_contra hlen
      exact hlong ⟨digits, negative, hs, isSome_of_denotes hd, Nat.not_le.mp hlen⟩
    | hexadecimal hx hd => rw [read_hexPrefix hx, unsignedHex?_eq_some_iff.mpr hd]

theorem not_isOverlong_of_countP (h : cs.countP isDecimalDigit ≤ maxDigits) : ¬ IsOverlong cs := by
  rintro ⟨digits, negative, hs, hdigits, hlong⟩
  have hsublist : digits.Sublist cs := by
    cases hs with
    | plain => exact List.Sublist.refl _
    | plus => exact List.sublist_cons_self '+' digits
    | minus => exact List.sublist_cons_self '-' digits
  have hcount : digits.countP isDecimalDigit = digits.length := List.countP_eq_length.mpr hdigits
  have := hsublist.countP_le (p := isDecimalDigit)
  omega

end

theorem toList_natText (n : Nat) : (natText n).toList = digitsOf n := by
  rw [natText, String.toList_ofList]

theorem denotes_digitsOf (n : Nat) : Denotes 10 decimalDigit? (digitsOf n) n := by
  rw [← ofDigits?_eq_some_iff (digitsOf_ne_nil n),
    ofDigits?_of_isAsciiDigit fun _ => isAsciiDigit_of_mem_digitsOf, asciiValue_digitsOf]

theorem isSigned_text (n : Int) : IsSigned (digitsOf n.natAbs) (n < 0) (text n).toList := by
  unfold text
  split
  · rename_i hn
    rw [String.toList_append, toList_natText, decide_eq_true hn]
    exact .minus
  · rename_i hn
    rw [toList_natText, decide_eq_false hn]
    exact .plain

theorem text_ne_nil (n : Int) : (text n).toList ≠ [] := by
  obtain ⟨ds, d, -, htext⟩ := (isSigned_text n).exists_concat (digitsOf_ne_nil n.natAbs)
  rw [htext]
  exact List.concat_ne_nil d ds

theorem signed_natAbs (n : Int) : signed (n < 0) n.natAbs = n := by
  by_cases h : n < 0
  · simp [signed, h, abs_of_neg h]
  · simp [signed, h, abs_of_nonneg (Int.not_lt.mp h)]

theorem read_text {n : Int} (hlow : minLong ≤ n) (hhigh : n ≤ maxLong) : read (text n).toList = .ok n := by
  have hlt : n.natAbs < 10 ^ 19 := by
    simp only [minLong, maxLong] at hlow hhigh
    omega
  have hlen : (digitsOf n.natAbs).length ≤ 19 := length_digitsOf_le (by decide) hlt
  rw [read_of_isSigned (isSigned_text n) (denotes_digitsOf n.natAbs), if_pos (Nat.le_trans hlen (by decide)),
    signed_natAbs]

theorem mem_text {n : Int} {c : Char} (hc : c ∈ (text n).toList) : c = '-' ∨ isAsciiDigit c = true := by
  unfold text at hc
  split at hc
  · rw [String.toList_append, toList_natText] at hc
    exact (List.mem_cons.mp hc).imp_right isAsciiDigit_of_mem_digitsOf
  · rw [toList_natText] at hc
    exact .inr (isAsciiDigit_of_mem_digitsOf hc)

theorem isBlank_of_mem_text {n : Int} : ∀ c ∈ (text n).toList, isBlank c = false := by
  intro c hc
  rcases mem_text hc with rfl | hc
  · rfl
  · exact isBlank_of_isAsciiDigit hc

theorem ofText_text {n : Int} (hlow : minLong ≤ n) (hhigh : n ≤ maxLong) {before after : String}
    (hb : ∀ c ∈ before.toList, isBlank c = true) (ha : ∀ c ∈ after.toList, isBlank c = true) :
    ofText (before ++ text n ++ after) = .ok n := by
  rw [ofText, String.toList_append, String.toList_append, trimChars_between hb ha,
    trimChars_eq_self isBlank_of_mem_text, read_text hlow hhigh]

end Integer
end ConfigLayers
