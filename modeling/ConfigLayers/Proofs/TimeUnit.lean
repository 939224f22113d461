import ConfigLayers.Duration
import Mathlib.Algebra.Order.Ring.Int

/-! Amounts of time in other units. Of two units one is a multiple of the other, so that the only thing that a
conversion loses is what is cut off where the units get coarser. -/
namespace ConfigLayers
namespace TimeUnit

variable {a b c : TimeUnit}

theorem nanos_ne_zero (u : TimeUnit) : (u.nanos : Int) ≠ 0 :=
  Int.natCast_ne_zero.mpr (Nat.ne_of_gt u.nanos_pos)

theorem nanos_dvd (h : a.nanos ≤ b.nanos) : a.nanos ∣ b.nanos := by
  revert h
  cases a <;> cases b <;> decide

theorem nanos_le_days (u : TimeUnit) : u.nanos ≤ days.nanos := by
  cases u <;> decide

theorem convert_self (u : TimeUnit) (amount : Int) : u.convert amount u = amount :=
  Int.mul_tdiv_cancel amount u.nanos_ne_zero

theorem convert_mul_nanos (h : b.nanos ≤ a.nanos) (amount : Int) :
    b.convert amount a * b.nanos = amount * a.nanos :=
  Int.tdiv_mul_cancel ((Int.natCast_dvd_natCast.mpr (nanos_dvd h)).mul_left amount)

theorem convert_of_le (h : b.nanos ≤ a.nanos) (amount : Int) :
    b.convert amount a = amount * (a.nanos / b.nanos : Nat) := by
  have hmul : (a.nanos : Int) = (a.nanos / b.nanos : Nat) * b.nanos := by
    exact_mod_cast (Nat.div_mul_cancel (nanos_dvd h)).symm
  rw [convert, hmul, ← Int.mul_assoc, Int.mul_tdiv_cancel _ b.nanos_ne_zero]

theorem tdiv_tdiv (n : Int) (j k : Nat) : (n.tdiv j).tdiv k = n.tdiv (j * k : Nat) := by
  have hnat : ∀ m : Nat, ((m : Int).tdiv j).tdiv k = (m : Int).tdiv (j * k : Nat) := by
    intro m
    rw [← Int.ofNat_tdiv, ← Int.ofNat_tdiv, ← Int.ofNat_tdiv, Nat.div_div_eq_div_mul]
  obtain ⟨m, rfl | rfl⟩ := Int.eq_nat_or_neg n
  · exact hnat m
  · rw [Int.neg_tdiv, Int.neg_tdiv, Int.neg_tdiv, hnat]

theorem convert_convert (h : b.nanos ≤ max a.nanos c.nanos) (amount : Int) :
    c.convert (b.convert amount a) b = c.convert amount a := by
  rcases le_max_iff.mp h with ha | hc
  · rw [convert, convert_mul_nanos ha]
    rfl
  · obtain ⟨k, hk⟩ := nanos_dvd hc
    have hpos : (0 : Int) < b.nanos := by exact_mod_cast b.nanos_pos
    calc c.convert (b.convert amount a) b
        = (b.nanos * b.convert amount a).tdiv (b.nanos * k) := by
          rw [convert, hk, Int.mul_comm _ (b.nanos : Int), Nat.cast_mul]
      _ = (b.convert amount a).tdiv k := Int.mul_tdiv_mul_of_pos _ _ hpos
      _ = (amount * a.nanos).tdiv (b.nanos * k : Nat) := tdiv_tdiv _ _ _
      _ = c.convert amount a := by rw [← hk]; rfl

theorem exists_convert_ne (ha : a.nanos < b.nanos) (hc : c.nanos < b.nanos) :
    ∃ amount, c.convert (b.convert amount a) b ≠ c.convert amount a := by
  obtain ⟨k, hk⟩ : a.nanos ∣ max a.nanos c.nanos := by
    rcases le_total a.nanos c.nanos with h | h
    · rw [max_eq_right h]
      exact nanos_dvd h
    · rw [max_eq_left h]
  have hlength : (k : Int) * a.nanos = (max a.nanos c.nanos : Nat) := by
    rw [hk, Nat.cast_mul, Int.mul_comm]
  have hlost : b.convert k a = 0 := by
    rw [convert, hlength]
    exact Int.tdiv_eq_zero_of_lt (Int.natCast_nonneg _) (by exact_mod_cast max_lt ha hc)
  have hkept : 1 ≤ c.convert k a := by
    rw [convert, hlength]
    refine Int.le_tdiv_of_mul_le (by exact_mod_cast c.nanos_pos) ?_
    rw [one_mul]
    exact_mod_cast le_max_right a.nanos c.nanos
  refine ⟨k, ?_⟩
  rw [hlost, convert, zero_mul, Int.zero_tdiv]
  omega

theorem convert_neg (amount : Int) : c.convert (-amount) a = -c.convert amount a := by
  rw [convert, Int.neg_mul, Int.neg_tdiv]
  rfl

theorem convert_le_convert {amount more : Int} (h : amount ≤ more) : c.convert amount a ≤ c.convert more a := by
  have hpos : (0 : Int) < c.nanos := by exact_mod_cast c.nanos_pos
  exact Int.tdiv_le_tdiv hpos (Int.mul_le_mul_of_nonneg_right h (Int.natCast_nonneg _))

/-- Conversion does not depend on the way. By way of another unit every amount comes out as it does at once, exactly if
that unit is not coarser than both the unit of the amount and the one that is asked for. An amount below zero is converted
as the one above zero, and more time never comes out as less. -/
theorem conversion_independent_of_way (a b c : TimeUnit) :
    ((∀ amount, c.convert (b.convert amount a) b = c.convert amount a) ↔ b.nanos ≤ max a.nanos c.nanos) ∧
    (∀ amount, c.convert (-amount) a = -c.convert amount a) ∧
    ∀ amount more, amount ≤ more → c.convert amount a ≤ c.convert more a := by
  refine ⟨⟨fun hall => ?_, convert_convert⟩, convert_neg, fun _ _ => convert_le_convert⟩
  by_contra h
  obtain ⟨ha, hc⟩ := max_lt_iff.mp (not_le.mp h)
  obtain ⟨amount, hne⟩ := exists_convert_ne ha hc
  exact hne (hall amount)

/-- Ninety minutes below zero are cut off to an hour below zero, at once and by way of seconds; by way of days they are
lost. -/
theorem conversion_independent_of_way_minutes :
    hours.convert (seconds.convert (-90) minutes) seconds = -1 ∧
      ¬ (∀ amount, hours.convert (days.convert amount minutes) days = hours.convert amount minutes) ∧
      (-90 : Int) ≤ 60 ∧ hours.convert (-90) minutes ≤ hours.convert 60 minutes := by
  obtain ⟨hseconds, -, hmono⟩ := conversion_independent_of_way minutes seconds hours
  obtain ⟨hdays, -, -⟩ := conversion_independent_of_way minutes days hours
  refine ⟨(hseconds.mpr (by decide) (-90)).trans (by decide), fun hall => ?_, by decide, hmono _ _ (by decide)⟩
  exact absurd (hdays.mp hall) (by decide)

end TimeUnit
end ConfigLayers
