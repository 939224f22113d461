import ConfigLayers.Proofs.Text.Blank
import ConfigLayers.Text.Digit
import Mathlib.Data.List.Forall2
import Mathlib.Data.Nat.Digits.Defs

/-! What digits denote: the number of the positional notation that they are written in. -/
namespace ConfigLayers
namespace Text

section

variable {base : Nat} {digit? : Char → Option Nat}

theorem ofDigits?_of_forall {f : Char → Nat} {cs : List Char} (h : ∀ c ∈ cs, digit? c = some (f c)) (acc : Nat) :
    ofDigits? base digit? acc cs = some (acc * base ^ cs.length + Nat.ofDigits base (cs.reverse.map f)) := by
  induction cs generalizing acc with
  | nil => simp [ofDigits?]
  | cons c cs ih =>
    obtain ⟨hc, hcs⟩ := List.forall_mem_cons.mp h
    have happend : Nat.ofDigits base ((c :: cs).reverse.map f) =
        Nat.ofDigits base (cs.reverse.map f) + base ^ cs.length * f c := by
      rw [List.reverse_cons, List.map_append, Nat.ofDigits_append]
      simp
    have hpow : acc * base ^ (c :: cs).length = acc * base * base ^ cs.length := by
      rw [List.length_cons, pow_succ', mul_assoc]
    rw [ofDigits?, hc, happend, hpow]
    simp only
    rw [ih hcs, add_mul, mul_comm (f c), add_assoc, add_comm (base ^ cs.length * f c)]

theorem ofDigits?_append (acc : Nat) (cs ds : List Char) :
    ofDigits? base digit? acc (cs ++ ds) = (ofDigits? base digit? acc cs).bind (ofDigits? base digit? · ds) := by
  induction cs generalizing acc with
  | nil => rfl
  | cons c cs ih =>
    rw [List.cons_append, ofDigits?, ofDigits?]
    cases digit? c with
    | none => rfl
    | some d => exact ih _

theorem exists_of_ofDigits?_concat {acc n : Nat} {cs : List Char} {c : Char}
    (h : ofDigits? base digit? acc (cs ++ [c]) = some n) :
    ∃ k d, ofDigits? base digit? acc cs = some k ∧ digit? c = some d ∧ k * base + d = n := by
  rw [ofDigits?_append] at h
  obtain ⟨k, hk, hlast⟩ := Option.bind_eq_some_iff.mp h
  cases hd : digit? c with
  | none => simp [ofDigits?, hd] at hlast
  | some d => exact ⟨k, d, hk, rfl, by simpa [ofDigits?, hd] using hlast⟩

theorem exists_of_mem_of_ofDigits? {acc n : Nat} {cs : List Char} (h : ofDigits? base digit? acc cs = some n) :
    ∀ c ∈ cs, ∃ d, digit? c = some d := by
  induction cs generalizing acc with
  | nil => exact fun c hc => absurd hc List.not_mem_nil
  | cons c cs ih =>
    rw [ofDigits?] at h
    cases hd : digit? c with
    | none => simp [hd] at h
    | some d =>
      rw [hd] at h
      exact List.forall_mem_cons.mpr ⟨⟨d, hd⟩, ih h⟩

def Denotes (base : Nat) (digit? : Char → Option Nat) (digits : List Char) (n : Nat) : Prop :=
  digits ≠ [] ∧ ∃ ds, List.Forall₂ (fun c d => digit? c = some d) digits ds ∧ Nat.ofDigits base ds.reverse = n

theorem ofDigits?_eq_some_iff {cs : List Char} {n : Nat} (hne : cs ≠ []) :
    ofDigits? base digit? 0 cs = some n ↔ Denotes base digit? cs n := by
  let f := fun c => (digit? c).getD 0
  have hread : (∀ c ∈ cs, digit? c = some (f c)) →
      ofDigits? base digit? 0 cs = some (Nat.ofDigits base (cs.map f).reverse) := by
    intro h
    rw [ofDigits?_of_forall h, zero_mul, zero_add, List.map_reverse]
  constructor
  · intro h
    have hf : ∀ c ∈ cs, digit? c = some (f c) := by
      intro c hc
      obtain ⟨d, hd⟩ := exists_of_mem_of_ofDigits? h c hc
      simp [f, hd]
    refine ⟨hne, cs.map f, ?_, Option.some.inj ((hread hf).symm.trans h)⟩
    rw [List.forall₂_map_right_iff, List.forall₂_same]
    exact hf
  · rintro ⟨-, ds, hds, rfl⟩
    have hmap : ds = cs.map f := by
      clear hread hne
      induction hds with
      | nil => rfl
      | cons hc _ ih => simp [f, hc, ← ih]
    rw [hmap]
    refine hread fun c hc => ?_
    rw [hmap, List.forall₂_map_right_iff, List.forall₂_same] at hds
    exact hds c hc

theorem exists_denotes {cs : List Char} (hne : cs ≠ []) (h : ∀ c ∈ cs, (digit? c).isSome) :
    ∃ n, Denotes base digit? cs n := by
  refine ⟨_, hne, cs.map fun c => (digit? c).getD 0, ?_, rfl⟩
  rw [List.forall₂_map_right_iff, List.forall₂_same]
  intro c hc
  obtain ⟨d, hd⟩ := Option.isSome_iff_exists.mp (h c hc)
  simp [hd]

theorem isSome_of_denotes {cs : List Char} {n : Nat} (h : Denotes base digit? cs n) : ∀ c ∈ cs, (digit? c).isSome := by
  intro c hc
  obtain ⟨d, hd⟩ := exists_of_mem_of_ofDigits? ((ofDigits?_eq_some_iff h.1).mpr h) c hc
  rw [hd]
  rfl

end

def asciiValue (digits : List Char) : Nat :=
  Nat.ofDigits 10 (digits.reverse.map fun c => c.toNat - '0'.toNat)

theorem asciiValue_concat (digits : List Char) (c : Char) :
    asciiValue (digits ++ [c]) = asciiValue digits * 10 + (c.toNat - '0'.toNat) := by
  rw [asciiValue, List.reverse_append, List.reverse_singleton, List.singleton_append, List.map_cons, Nat.ofDigits_cons,
    ← asciiValue]
  omega

theorem asciiValue_lt {digits : List Char} (h : ∀ c ∈ digits, isAsciiDigit c = true) :
    asciiValue digits < 10 ^ digits.length := by
  have hd : ∀ d ∈ digits.reverse.map (fun c => c.toNat - '0'.toNat), d < 10 := by
    intro d hd
    obtain ⟨c, hc, rfl⟩ := List.mem_map.mp hd
    have hc' := h c (List.mem_reverse.mp hc)
    simp only [isAsciiDigit, Bool.and_eq_true, decide_eq_true_eq] at hc'
    change c.toNat - 0x30 < 10
    omega
  have hlt := Nat.ofDigits_lt_base_pow_length (by decide : 1 < 10) hd
  rwa [List.length_map, List.length_reverse] at hlt

theorem decimalDigit?_of_isAsciiDigit {c : Char} (h : isAsciiDigit c = true) :
    decimalDigit? c = some (c.toNat - '0'.toNat) := by
  simp only [isAsciiDigit, Bool.and_eq_true, decide_eq_true_eq] at h
  have hzero : (decimalZeros.find? fun start => start ≤ c.toNat && c.toNat < start + 10) = some 0x30 := by
    rw [decimalZeros, List.find?_cons_of_pos]
    simp only [Bool.and_eq_true, decide_eq_true_eq]
    omega
  rw [decimalDigit?, hzero]
  rfl

theorem isDecimalDigit_of_isAsciiDigit {c : Char} (h : isAsciiDigit c = true) : isDecimalDigit c = true := by
  rw [isDecimalDigit, decimalDigit?_of_isAsciiDigit h]
  rfl

theorem isDecimalDigit_of_lt {c : Char} (h : c.toNat < 0x660) : isDecimalDigit c = isAsciiDigit c := by
  have hothers : (decimalZeros.tail.all fun start => Nat.ble 0x660 start) = true := by decide
  cases hascii : isAsciiDigit c with
  | true => exact isDecimalDigit_of_isAsciiDigit hascii
  | false =>
    rw [isDecimalDigit, decimalDigit?, Option.isSome_map, Option.isSome_eq_false_iff, Option.isNone_iff_eq_none,
      List.find?_eq_none]
    simp only [isAsciiDigit, Bool.and_eq_false_iff, decide_eq_false_iff_not] at hascii
    intro start hstart
    simp only [Bool.and_eq_true, decide_eq_true_eq]
    rcases List.mem_cons.mp hstart with rfl | hstart
    · omega
    · have := Nat.le_of_ble_eq_true (List.all_eq_true.mp hothers start hstart)
      omega

theorem isDecimalDigit_of_mem {cs : List Char} {c : Char} (hc : c ∈ cs)
    (h : (cs.all fun a => Nat.blt a.toNat 0x660 && !isAsciiDigit a) = true) : isDecimalDigit c = false := by
  have hascii := List.all_eq_true.mp h c hc
  rw [Bool.and_eq_true, Nat.blt_eq, Bool.not_eq_true'] at hascii
  rw [isDecimalDigit_of_lt hascii.1, hascii.2]

theorem ofDigits?_of_isAsciiDigit {digits : List Char} (h : ∀ c ∈ digits, isAsciiDigit c = true) :
    ofDigits? 10 decimalDigit? 0 digits = some (asciiValue digits) := by
  rw [ofDigits?_of_forall fun c hc => decimalDigit?_of_isAsciiDigit (h c hc), zero_mul, zero_add]
  rfl

theorem isBlank_of_isAsciiDigit {c : Char} (h : isAsciiDigit c = true) : isBlank c = false := by
  simp only [isAsciiDigit, Bool.and_eq_true, decide_eq_true_eq] at h
  simp only [isBlank, Bool.or_eq_false_iff, Bool.and_eq_false_iff, decide_eq_false_iff_not, beq_eq_false_iff_ne]
  omega

theorem toNat_of_hexDigit? {c : Char} {d : Nat} (h : hexDigit? c = some d) :
    (d < 10 ∧ c.toNat = 0x30 + d) ∨ (10 ≤ d ∧ d < 16) ∧ (c.toNat = 0x57 + d ∨ c.toNat = 0x37 + d) := by
  unfold hexDigit? at h
  simp only [Bool.and_eq_true, decide_eq_true_eq] at h
  split at h
  · cases h
    omega
  · split at h
    · cases h
      omega
    · split at h
      · cases h
        omega
      · cases h

theorem hexDigit?_lt {c : Char} {d : Nat} (h : hexDigit? c = some d) : d < 16 := by
  have := toNat_of_hexDigit? h
  omega

theorem eq_of_hexDigit? {c : Char} {d : Nat} (h : hexDigit? c = some d) (hd : 10 ≤ d) :
    c = Char.ofNat (0x57 + d) ∨ c = Char.ofNat (0x37 + d) := by
  rcases toNat_of_hexDigit? h with ⟨hsmall, -⟩ | ⟨-, hc | hc⟩
  · omega
  · exact .inl (by rw [← hc, Char.ofNat_toNat])
  · exact .inr (by rw [← hc, Char.ofNat_toNat])

theorem isBlank_of_hexDigit? {c : Char} {d : Nat} (h : hexDigit? c = some d) : isBlank c = false := by
  have := toNat_of_hexDigit? h
  simp only [isBlank, Bool.or_eq_false_iff, Bool.and_eq_false_iff, decide_eq_false_iff_not, beq_eq_false_iff_ne]
  omega

end Text
end ConfigLayers
