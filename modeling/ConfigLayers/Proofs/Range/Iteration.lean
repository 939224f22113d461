import ConfigLayers.Range
import Mathlib.Data.List.Basic

/-! Iteration over ranges. The spans are gone through in the order of their starts, and of each the members behind
those that have been met are taken. -/
namespace ConfigLayers
namespace Ranges

/-- All members of spans sorted by start, from `next` on. -/
def walkAll : List Span → Nat → List Nat
  | [], _ => []
  | s :: rest, next =>
    List.range' (max s.low next) (s.high + 1 - max s.low next) ++ walkAll rest (max next (s.high + 1))

theorem walk_eq_take (spans : List Span) (next limit : Nat) :
    walk spans next limit = (walkAll spans next).take limit := by
  induction spans generalizing next limit with
  | nil => exact (List.take_nil ..).symm
  | cons s rest ih =>
    let start := max s.low next
    let size := s.high + 1 - start
    have hcount : limit - min limit size = limit - size := by omega
    have htake : (List.range' start size).take limit = List.range' start (min limit size) := by
      rcases Nat.le_total limit size with h | h
      · rw [List.take_range'_of_length_ge h, Nat.min_eq_left h]
      · rw [List.take_range'_of_length_le h, Nat.min_eq_right h]
    change List.range' start (min limit size) ++ walk rest _ (limit - min limit size) =
      (List.range' start size ++ walkAll rest _).take limit
    rw [ih, List.take_append, List.length_range', htake, hcount]

theorem mem_range'_iff {s : Span} {next n : Nat} :
    n ∈ List.range' (max s.low next) (s.high + 1 - max s.low next) ↔ next ≤ n ∧ s.low ≤ n ∧ n ≤ s.high := by
  rw [List.mem_range'_1]
  omega

theorem le_of_mem_walkAll {spans : List Span} {next n : Nat} (h : n ∈ walkAll spans next) : next ≤ n := by
  induction spans generalizing next with
  | nil => cases h
  | cons s rest ih =>
    rcases List.mem_append.mp h with h | h
    · exact (mem_range'_iff.mp h).1
    · exact Nat.le_trans (Nat.le_max_left ..) (ih h)

theorem pairwise_walkAll (spans : List Span) (next : Nat) : (walkAll spans next).Pairwise (· < ·) := by
  induction spans generalizing next with
  | nil => exact .nil
  | cons s rest ih =>
    refine List.pairwise_append.mpr ⟨List.pairwise_lt_range', ih _, fun n hn m hm => ?_⟩
    have hle : n ≤ s.high := (mem_range'_iff.mp hn).2.2
    have hlt : max next (s.high + 1) ≤ m := le_of_mem_walkAll hm
    omega

theorem mem_walkAll_iff {spans : List Span} (hs : spans.Pairwise fun a b => a.low ≤ b.low) {next n : Nat} :
    n ∈ walkAll spans next ↔ next ≤ n ∧ ∃ s ∈ spans, s.low ≤ n ∧ n ≤ s.high := by
  induction spans generalizing next with
  | nil => simp [walkAll]
  | cons s rest ih =>
    obtain ⟨hfirst, hrest⟩ := List.pairwise_cons.mp hs
    rw [walkAll, List.mem_append, mem_range'_iff, ih hrest]
    constructor
    · rintro (⟨hn, hm⟩ | ⟨hn, t, ht, hm⟩)
      · exact ⟨hn, s, List.mem_cons_self, hm⟩
      · exact ⟨Nat.le_trans (Nat.le_max_left ..) hn, t, List.mem_cons_of_mem s ht, hm⟩
    · rintro ⟨hn, t, ht, hm⟩
      rcases List.mem_cons.mp ht with rfl | ht
      · exact .inl ⟨hn, hm⟩
      · have hlow : s.low ≤ t.low := hfirst t ht
        by_cases hbehind : s.high < n
        · exact .inr ⟨by omega, t, ht, hm⟩
        · exact .inl ⟨hn, by omega, by omega⟩

theorem pairwise_mergeSort_le (spans : List Span) :
    (spans.mergeSort Span.le).Pairwise fun a b => a.low ≤ b.low := by
  have htrans : ∀ a b c : Span, a.le b = true → b.le c = true → a.le c = true := by
    intro a b c hab hbc
    simp only [Span.le, Bool.or_eq_true, Bool.and_eq_true, decide_eq_true_eq, beq_iff_eq] at hab hbc ⊢
    omega
  have htotal : ∀ a b : Span, (a.le b || b.le a) = true := by
    intro a b
    simp only [Span.le, Bool.or_eq_true, Bool.and_eq_true, decide_eq_true_eq, beq_iff_eq]
    omega
  refine (List.pairwise_mergeSort htrans htotal spans).imp fun {a b} h => ?_
  simp only [Span.le, Bool.or_eq_true, Bool.and_eq_true, decide_eq_true_eq, beq_iff_eq] at h
  omega

/-- Iteration over ranges comes to an end, and until then gives each member once, in ascending order. -/
theorem members_enumerate (r : Ranges) :
    ∃ all : List Nat,
      (∀ limit, r.members limit = all.take limit) ∧
      (∀ limit, all.length ≤ limit → r.members limit = all) ∧
      all.Pairwise (· < ·) ∧
      ∀ x : Int, (∃ n ∈ all, (n : Int) = x) ↔ r.contains x = true := by
  have htake : ∀ limit, r.members limit = (walkAll (r.spans.mergeSort Span.le) 0).take limit :=
    walk_eq_take _ 0
  refine ⟨walkAll (r.spans.mergeSort Span.le) 0, htake, fun limit h => ?_, pairwise_walkAll _ 0, fun x => ?_⟩
  · rw [htake, List.take_of_length_le h]
  · rw [contains_iff]
    constructor
    · rintro ⟨n, hn, rfl⟩
      obtain ⟨-, s, hs, hlow, hhigh⟩ := (mem_walkAll_iff (pairwise_mergeSort_le r.spans)).mp hn
      exact ⟨s, List.mem_mergeSort.mp hs, Int.ofNat_le.mpr hlow, Int.ofNat_le.mpr hhigh⟩
    · rintro ⟨s, hs, hlow, hhigh⟩
      obtain ⟨n, rfl⟩ := Int.eq_ofNat_of_zero_le (Int.le_trans (Int.natCast_nonneg s.low) hlow)
      refine ⟨n, (mem_walkAll_iff (pairwise_mergeSort_le r.spans)).mpr ⟨Nat.zero_le n, s, ?_⟩, rfl⟩
      exact ⟨List.mem_mergeSort.mpr hs, Int.ofNat_le.mp hlow, Int.ofNat_le.mp hhigh⟩

/-- A short span within a longer one that started before it is passed over, and one behind both is not. -/
example : members ⟨[⟨30, 30, by decide⟩, ⟨5, 12, by decide⟩, ⟨7, 8, by decide⟩, ⟨13, 14, by decide⟩]⟩ 20 =
    [5, 6, 7, 8, 9, 10, 11, 12, 13, 14, 30] := by cbv

end Ranges
end ConfigLayers
