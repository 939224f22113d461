import ConfigLayers.Number.Integer
import ConfigLayers.Proofs.Text.Blank
import ConfigLayers.Proofs.Text.Digit

/-! How the text of an integer ends: in a decimal digit of some script, or, behind `0x`, in a hexadecimal one, and then
what stands before it is cut off by one digit. -/
namespace ConfigLayers
namespace Integer

open Text

def hexPrefix (negative : Bool) (x : Char) : List Char :=
  (if negative then ['-'] else []) ++ ['0', x]

theorem hex?_hexPrefix {x : Char} (hx : x = 'x' ∨ x = 'X') (negative : Bool) (ds : List Char) :
    hex? (hexPrefix negative x ++ ds) = (unsignedHex? ds).map (signed negative) := by
  cases negative <;> rcases hx with rfl | rfl <;> rfl

theorem exists_of_hex? {cs : List Char} {n : Int} (h : hex? cs = some n) :
    ∃ negative x ds k, (x = 'x' ∨ x = 'X') ∧ cs = hexPrefix negative x ++ ds ∧ unsignedHex? ds = some k ∧
      signed negative k = n := by
  unfold hex? at h
  split at h
  · rename_i x ds
    split at h
    · rename_i hx
      obtain ⟨k, hk, rfl⟩ := Option.map_eq_some_iff.mp h
      exact ⟨true, x, ds, k, by simpa using hx, rfl, hk, rfl⟩
    · cases h
  · rename_i x ds
    split at h
    · rename_i hx
      obtain ⟨k, hk, rfl⟩ := Option.map_eq_some_iff.mp h
      exact ⟨false, x, ds, k, by simpa using hx, rfl, hk, rfl⟩
    · cases h
  · cases h

/-- A text with a hexadecimal start is no decimal one, so that it is read as the former or not at all. -/
theorem read_hexPrefix {x : Char} (hx : x = 'x' ∨ x = 'X') (negative : Bool) (ds : List Char) :
    read (hexPrefix negative x ++ ds) =
      match unsignedHex? ds with
      | some k => .ok (signed negative k)
      | none => .error .malformed := by
  rw [read, hex?_hexPrefix hx]
  cases unsignedHex? ds with
  | some k => rfl
  | none => cases negative <;> rcases hx with rfl | rfl <;> rfl

theorem ofDigits?_of_unsignedHex? {cs : List Char} {k : Nat} (h : unsignedHex? cs = some k) :
    ofDigits? 16 hexDigit? 0 cs = some k := by
  cases cs with
  | nil => cases h
  | cons c cs => exact h

theorem exists_append_splitSign (cs : List Char) : ∃ sign, cs = sign ++ (splitSign cs).2 := by
  unfold splitSign
  split
  · exact ⟨['-'], rfl⟩
  · exact ⟨['+'], rfl⟩
  · exact ⟨[], rfl⟩

theorem isDecimalDigit_of_decimal {cs : List Char} {c : Char} {n : Int} (h : decimal (cs ++ [c]) = .ok n) :
    isDecimalDigit c = true := by
  obtain ⟨sign, hsign⟩ := exists_append_splitSign (cs ++ [c])
  rw [decimal] at h
  cases hu : unsigned? (splitSign (cs ++ [c])).2 with
  | none => simp [hu] at h
  | some k =>
    generalize (splitSign (cs ++ [c])).2 = digits at hsign hu
    rcases List.eq_nil_or_concat' digits with rfl | ⟨ds, c', rfl⟩
    · cases hu
    · rw [← List.append_assoc] at hsign
      obtain rfl : c = c' := List.singleton_inj.mp (List.append_inj' hsign rfl).2
      have hdigits : ofDigits? 10 decimalDigit? 0 (ds ++ [c]) = some k := by
        cases ds <;> exact hu
      obtain ⟨-, d, -, hd, -⟩ := exists_of_ofDigits?_concat hdigits
      rw [isDecimalDigit, hd]
      rfl

theorem read_concat {cs : List Char} {c : Char} {n : Int} (h : read (cs ++ [c]) = .ok n) :
    isDecimalDigit c = true ∨
      ∃ negative k d, hexDigit? c = some d ∧ n = signed negative (k * 16 + d) ∧ (∀ a ∈ cs, isBlank a = false) ∧
        ∀ m, read cs = .ok m → m = signed negative k := by
  cases hhex : hex? (cs ++ [c]) with
  | none =>
    rw [read, hhex] at h
    exact .inl (isDecimalDigit_of_decimal h)
  | some n' =>
    rw [read, hhex] at h
    cases h
    obtain ⟨negative, x, ds, k, hx, hcs, hk, rfl⟩ := exists_of_hex? hhex
    rcases List.eq_nil_or_concat' ds with rfl | ⟨es, c', rfl⟩
    · cases hk
    · rw [← List.append_assoc] at hcs
      obtain ⟨rfl, hlast⟩ := List.append_inj' hcs rfl
      obtain rfl := List.singleton_inj.mp hlast
      obtain ⟨k, d, hes, hd, rfl⟩ := exists_of_ofDigits?_concat (ofDigits?_of_unsignedHex? hk)
      have hprefix : (hexPrefix negative x).all (fun a => !isBlank a) = true := by
        cases negative <;> rcases hx with rfl | rfl <;> rfl
      refine .inr ⟨negative, k, d, hd, rfl, ?_, ?_⟩
      · intro a ha
        rcases List.mem_append.mp ha with ha | ha
        · simpa using List.all_eq_true.mp hprefix a ha
        · obtain ⟨d', hd'⟩ := exists_of_mem_of_ofDigits? hes a ha
          exact isBlank_of_hexDigit? hd'
      · intro m hm
        rw [read_hexPrefix hx] at hm
        cases hu : unsignedHex? es with
        | none =>
          rw [hu] at hm
          cases hm
        | some k' =>
          rw [hu] at hm
          cases hm
          rw [Option.some.inj (hes.symm.trans (ofDigits?_of_unsignedHex? hu))]

theorem read_concat_of_letter {cs : List Char} {c : Char} {n : Int} {d : Nat} (h : read (cs ++ [c]) = .ok n)
    (hc : hexDigit? c = some d) (hd : 10 ≤ d) :
    ∃ negative k, n = signed negative (k * 16 + d) ∧ (∀ a ∈ cs, isBlank a = false) ∧
      ∀ m, read cs = .ok m → m = signed negative k := by
  rcases read_concat h with hdigit | ⟨negative, k, d', hd', hn, hrest⟩
  · have hletter := toNat_of_hexDigit? hc
    rw [isDecimalDigit_of_lt (by omega)] at hdigit
    simp only [isAsciiDigit, Bool.and_eq_true, decide_eq_true_eq] at hdigit
    omega
  · obtain rfl : d = d' := Option.some.inj (hc.symm.trans hd')
    exact ⟨negative, k, hn, hrest⟩

end Integer
end ConfigLayers
