import ConfigLayers.Number.Integer
import ConfigLayers.Proofs.Text.Digit

/-! The digits in which a number is printed: they denote the number, and are no more than its size asks for. -/
namespace ConfigLayers
namespace Integer

open Text

theorem digitsOf_ne_nil (n : Nat) : digitsOf n ≠ [] := by
  rw [digitsOf]
  split
  · exact List.cons_ne_nil _ _
  · exact List.append_ne_nil_of_right_ne_nil _ (List.cons_ne_nil _ _)

theorem isAsciiDigit_of_mem_digitsOf {n : Nat} {c : Char} (h : c ∈ digitsOf n) : isAsciiDigit c = true := by
  have hd : ∀ d < 10, isAsciiDigit (hexChar d) = true := by decide
  induction n using digitsOf.induct with
  | case1 n hn =>
    rw [digitsOf, if_pos hn, List.mem_singleton] at h
    exact h ▸ hd n hn
  | case2 n hn ih =>
    rw [digitsOf, if_neg hn, List.mem_append, List.mem_singleton] at h
    rcases h with h | h
    · exact ih h
    · exact h ▸ hd (n % 10) (Nat.mod_lt n (by decide))

theorem asciiValue_digitsOf (n : Nat) : asciiValue (digitsOf n) = n := by
  have hd : ∀ d < 10, (hexChar d).toNat - '0'.toNat = d := by decide
  induction n using digitsOf.induct with
  | case1 n hn =>
    rw [digitsOf, if_pos hn, ← List.nil_append [hexChar n], asciiValue_concat, hd n hn]
    exact Nat.zero_add n
  | case2 n hn ih =>
    rw [digitsOf, if_neg hn, asciiValue_concat, ih, hd (n % 10) (Nat.mod_lt n (by decide))]
    omega

theorem length_digitsOf_le {n k : Nat} (hk : 0 < k) (h : n < 10 ^ k) : (digitsOf n).length ≤ k := by
  induction n using digitsOf.induct generalizing k with
  | case1 n hn =>
    rw [digitsOf, if_pos hn]
    exact hk
  | case2 n hn ih =>
    obtain ⟨k, rfl⟩ := Nat.exists_eq_add_one.mpr hk
    rw [pow_succ] at h
    have hk' : 0 < k := by
      rcases Nat.eq_zero_or_pos k with rfl | hk'
      · omega
      · exact hk'
    have hlen := ih hk' (Nat.div_lt_of_lt_mul (by omega))
    rw [digitsOf, if_neg hn, List.length_append]
    exact Nat.add_le_add_right hlen 1

end Integer
end ConfigLayers
