import ConfigLayers.Catalog.Basic
import ConfigLayers.Proofs.Range.Items
import ConfigLayers.Proofs.Value.Integer

/-! How texts are refused where numbers are asked for. All that is not read is refused as a value, but for texts with
more digits than an integer may have: the limit is not noticed before the digits are converted. -/
namespace ConfigLayers

open Text

/-- What keeps a text from being read as a number: a value that is refused, or digits beyond the limit. -/
def Error.IsRefusal (e : Error) : Prop :=
  e.kind = .invalidValue ∨ e = .tooManyDigits

/-- What is not read from a text is refused as a value, unless the text is overlong. -/
structure Refuses {α : Type} (overlong : Prop) (x : Except Error α) : Prop where
  fails : FailsAs Error.IsRefusal x
  limit : x = .error .tooManyDigits ↔ overlong

/-- Too many digits in front of a suffix, or without one. -/
def IsOverlongBefore (suffixes : List Char → Prop) (cs : List Char) : Prop :=
  ∃ number suffix, cs = number ++ suffix ∧ (suffix = [] ∨ suffixes suffix) ∧ Integer.IsOverlong (trimChars number)

namespace Value

variable {s : String} {key : Option String}

theorem failsAs_bounded (low high : Int) (expected : String) (key : Option String) (s : String) :
    FailsAs Error.IsRefusal (bounded low high expected key s) := by
  unfold bounded
  split
  · exact failsAs_error (.inr rfl)
  · exact failsAs_error (.inl rfl)
  · split
    · exact failsAs_ok _
    · exact failsAs_error (.inl rfl)

theorem refuses_bounded (low high : Int) (expected : String) (key : Option String) (s : String) :
    Refuses (Integer.IsOverlong (trimChars s.toList)) (bounded low high expected key s) :=
  ⟨failsAs_bounded low high expected key s, bounded_eq_tooManyDigits_iff⟩

theorem failsAs_byteCount (s : String) (key : Option String) :
    FailsAs Error.IsRefusal (byteCount s key) := by
  unfold byteCount
  dsimp only
  split
  · exact failsAs_error (.inl rfl)
  · split
    · exact failsAs_bounded _ _ _ key _
    · refine (failsAs_bounded _ _ _ key _).bind fun n _ => ?_
      split
      · exact failsAs_ok _
      · exact failsAs_error (.inl rfl)

/-- A suffix of a number of bytes. -/
def IsBinarySuffix (cs : List Char) : Prop :=
  ∃ c power, cs = [c] ∧ binaryPower? c = some power

theorem byteCount_of_none {cs : List Char} {c : Char} (ht : trimChars s.toList = cs ++ [c])
    (hc : binaryPower? c = none) :
    byteCount s key = bounded Integer.minLong Integer.maxLong "byte count" key (String.ofList (cs ++ [c])) := by
  rw [byteCount, ht]
  simp only [List.getLast?_concat, hc]

theorem byteCount_eq_tooManyDigits_of_some {cs : List Char} {c : Char} {power : Nat}
    (ht : trimChars s.toList = cs ++ [c]) (hc : binaryPower? c = some power) :
    byteCount s key = .error .tooManyDigits ↔ Integer.IsOverlong (trimChars cs) := by
  have hplain : bounded Integer.minLong Integer.maxLong "byte count" key (String.ofList cs) = .error .tooManyDigits ↔
      Integer.IsOverlong (trimChars cs) := by
    rw [bounded_eq_tooManyDigits_iff, String.toList_ofList]
  rw [← hplain, byteCount, ht]
  simp only [List.getLast?_concat, hc, List.dropLast_concat]
  cases bounded Integer.minLong Integer.maxLong "byte count" key (String.ofList cs) with
  | error e => exact Iff.rfl
  | ok n =>
    simp only [reduceCtorEq, iff_false]
    intro h
    change (if _ then _ else _) = _ at h
    split at h <;> cases h

theorem refuses_byteCount (s : String) (key : Option String) :
    Refuses (IsOverlongBefore IsBinarySuffix (trimChars s.toList)) (byteCount s key) := by
  refine ⟨failsAs_byteCount s key, ?_⟩
  have hself := trimChars_trimChars s.toList
  rcases List.eq_nil_or_concat' (trimChars s.toList) with ht | ⟨cs, c, ht⟩
  · rw [byteCount, ht]
    refine iff_of_false (by simp) ?_
    rintro ⟨number, suffix, hcs, -, h⟩
    obtain ⟨ds, d, hd, -⟩ := h.exists_concat
    rw [(List.append_eq_nil_iff.mp hcs.symm).1] at hd
    exact List.concat_ne_nil d ds hd.symm
  · rw [ht] at hself ⊢
    cases hc : binaryPower? c with
    | none =>
      rw [byteCount_of_none ht hc, bounded_eq_tooManyDigits_iff, String.toList_ofList]
      constructor
      · intro h
        exact ⟨cs ++ [c], [], (List.append_nil _).symm, .inl rfl, h⟩
      · rintro ⟨number, suffix, hcs, rfl | ⟨c', power, rfl, hc'⟩, h⟩
        · rwa [hcs, List.append_nil]
        · obtain ⟨-, hlast⟩ := List.append_inj' hcs rfl
          rw [List.singleton_inj.mp hlast, hc'] at hc
          cases hc
    | some power =>
      rw [byteCount_eq_tooManyDigits_of_some ht hc]
      constructor
      · intro h
        exact ⟨cs, [c], rfl, .inr ⟨c, power, rfl, hc⟩, h⟩
      · rintro ⟨number, suffix, hcs, rfl | ⟨c', power', rfl, -⟩, h⟩
        · rw [List.append_nil] at hcs
          rw [← hcs, hself] at h
          obtain ⟨ds, d, hd, hdigit⟩ := h.exists_concat
          obtain ⟨-, hlast⟩ := List.append_inj' hd rfl
          rw [List.singleton_inj.mp hlast, binaryPower?_of_isDecimalDigit hdigit] at hc
          cases hc
        · rwa [(List.append_inj' hcs rfl).1]

end Value

namespace Duration

theorem failsAs_parse (s : String) (asked : TimeUnit) (key : Option String) :
    FailsAs Error.IsRefusal (parse s asked key) := by
  unfold parse
  dsimp only
  split
  · exact failsAs_error (.inr rfl)
  · exact failsAs_error (.inl rfl)
  · split
    · exact failsAs_ok _
    · exact failsAs_error (.inl rfl)

theorem parse_eq_tooManyDigits_iff {s : String} {asked source : TimeUnit} {key : Option String} {number : List Char}
    (hsplit : split asked (trimChars s.toList) = (number, source)) :
    parse s asked key = .error .tooManyDigits ↔ Integer.IsOverlong (trimChars number) := by
  rw [parse, hsplit, ← Integer.read_eq_tooManyDigits_iff]
  dsimp only
  cases Integer.read (trimChars number) with
  | error e => cases e <;> simp
  | ok n => by_cases hn : Integer.minLong ≤ n ∧ n ≤ Integer.maxLong <;> simp [hn]

theorem split_of_isOverlong (asked : TimeUnit) {number suffix : List Char}
    (hs : suffix = [] ∨ ∃ u : TimeUnit, u.IsSuffix suffix) (h : Integer.IsOverlong (trimChars number))
    (ht : trimChars (number ++ suffix) = number ++ suffix) : (split asked (number ++ suffix)).1 = number := by
  rcases hs with rfl | ⟨u, hs⟩
  · rw [List.append_nil] at ht ⊢
    rw [ht] at h
    obtain ⟨ds, d, rfl, hd⟩ := h.exists_concat
    rw [split_concat_of_isDecimalDigit hd]
  · obtain ⟨digits, negative, hn, hdigits, hlong⟩ := h
    rw [split_append hs hn (List.ne_nil_of_length_pos (Nat.zero_lt_of_lt hlong)) hdigits]

theorem refuses_parse (s : String) (asked : TimeUnit) (key : Option String) :
    Refuses (IsOverlongBefore (fun cs => ∃ u : TimeUnit, u.IsSuffix cs) (trimChars s.toList)) (parse s asked key) := by
  refine ⟨failsAs_parse s asked key, ?_⟩
  have hself := trimChars_trimChars s.toList
  cases hsplit : split asked (trimChars s.toList) with
  | mk number source =>
    rw [parse_eq_tooManyDigits_iff hsplit]
    constructor
    · intro h
      rcases exists_of_split hsplit with hcs | ⟨suffix, hs, hcs⟩
      · exact ⟨number, [], by rw [hcs, List.append_nil], .inl rfl, h⟩
      · exact ⟨number, suffix, hcs, .inr ⟨source, hs⟩, h⟩
    · rintro ⟨number', suffix, hcs, hs, h⟩
      rw [hcs] at hself hsplit
      have hnumber := split_of_isOverlong asked hs h hself
      rw [hsplit] at hnumber
      subst hnumber
      exact h

end Duration

namespace Item

/-- More digits than an integer may have in front of units, with at most one space between. -/
def IsOverlong (cs : List Char) : Prop :=
  ∃ digits units, (∀ c ∈ digits, isAsciiDigit c = true) ∧ Integer.maxDigits < digits.length ∧
    (∀ c ∈ units, c.isAlpha = true) ∧ (cs = digits ++ units ∨ cs = digits ++ ' ' :: units)

theorem long_eq_tooManyDigits_iff {digits : List Char} (h : ∀ c ∈ digits, isAsciiDigit c = true)
    {key : Option String} :
    Value.long (String.ofList digits) key = .error .tooManyDigits ↔ Integer.maxDigits < digits.length := by
  rw [Value.long, Value.bounded_eq_tooManyDigits_iff, String.toList_ofList,
    trimChars_eq_self fun c hc => isBlank_of_isAsciiDigit (h c hc)]
  constructor
  · rintro ⟨ds, negative, hs, -, hlong⟩
    cases hs with
    | plain => exact hlong
    | plus => exact Nat.lt_succ_of_lt hlong
    | minus => exact Nat.lt_succ_of_lt hlong
  · intro hlong
    exact ⟨digits, false, .plain, fun c hc => isDecimalDigit_of_isAsciiDigit (h c hc), hlong⟩

def behindSpace : List Char → List Char
  | ' ' :: cs => cs
  | cs => cs

theorem eq_behindSpace (cs : List Char) : cs = behindSpace cs ∨ cs = ' ' :: behindSpace cs := by
  unfold behindSpace
  split
  · exact .inr rfl
  · exact .inl rfl

theorem behindSpace_of_ne {cs : List Char} (h : ∀ c ∈ cs, c ≠ ' ') : behindSpace cs = cs := by
  unfold behindSpace
  split
  · exact absurd rfl (h ' ' List.mem_cons_self)
  · rfl

theorem amount_eq (s : String) (key : Option String) :
    amount s key =
      if ((trimChars s.toList).takeWhile isAsciiDigit).isEmpty ||
          !(behindSpace ((trimChars s.toList).dropWhile isAsciiDigit)).all Char.isAlpha then
        .error (.invalidValue key s "resource value")
      else do
        return (← Value.long (String.ofList ((trimChars s.toList).takeWhile isAsciiDigit)) key,
          String.ofList (behindSpace ((trimChars s.toList).dropWhile isAsciiDigit))) :=
  rfl

theorem ne_space_of_isAlpha {c : Char} (h : c.isAlpha = true) : c ≠ ' ' ∧ isAsciiDigit c = false := by
  refine ⟨?_, Bool.eq_false_iff.mpr fun hd => ?_⟩
  · rintro rfl
    cases h
  · simp only [isAsciiDigit, Bool.and_eq_true, decide_eq_true_eq, Char.toNat] at hd
    change (decide ('A'.val ≤ c.val ∧ c.val ≤ 'Z'.val) ||
      decide ('a'.val ≤ c.val) && decide (c.val ≤ 'z'.val)) = true at h
    simp only [Bool.or_eq_true, Bool.and_eq_true, decide_eq_true_eq, UInt32.le_iff_toNat_le] at h
    have hletters : 'A'.val.toNat = 0x41 ∧ 'a'.val.toNat = 0x61 := by decide
    omega

theorem parts_append {digits units rest : List Char} (hd : ∀ c ∈ digits, isAsciiDigit c = true)
    (hu : ∀ c ∈ units, c.isAlpha = true) (hrest : rest = units ∨ rest = ' ' :: units) :
    (digits ++ rest).takeWhile isAsciiDigit = digits ∧
      behindSpace ((digits ++ rest).dropWhile isAsciiDigit) = units := by
  rw [List.takeWhile_append_of_pos hd, List.dropWhile_append_of_pos hd]
  rcases hrest with rfl | rfl
  · have hunits := behindSpace_of_ne fun c hc => (ne_space_of_isAlpha (hu c hc)).1
    cases rest with
    | nil => exact ⟨List.append_nil digits, rfl⟩
    | cons c rest =>
      have hc := (ne_space_of_isAlpha (hu c List.mem_cons_self)).2
      rw [List.takeWhile_cons_of_neg (by simp [hc]), List.dropWhile_cons_of_neg (by simp [hc])]
      exact ⟨List.append_nil digits, hunits⟩
  · exact ⟨List.append_nil digits, rfl⟩

theorem failsAs_amount (s : String) (key : Option String) :
    FailsAs Error.IsRefusal (amount s key) := by
  rw [amount_eq]
  split
  · exact failsAs_error (.inl rfl)
  · exact (Value.failsAs_bounded _ _ _ key _).bind fun _ _ => failsAs_ok _

theorem refuses_amount (s : String) (key : Option String) :
    Refuses (IsOverlong (trimChars s.toList)) (amount s key) := by
  refine ⟨failsAs_amount s key, ?_⟩
  rw [amount_eq]
  constructor
  · intro h
    have hdigits : ∀ c ∈ (trimChars s.toList).takeWhile isAsciiDigit, isAsciiDigit c = true :=
      fun c hc => List.mem_takeWhile_imp hc
    split at h
    · cases h
    · rename_i hread
      rw [Bool.or_eq_true, not_or, Bool.not_eq_true', Bool.not_eq_false, List.all_eq_true] at hread
      cases hlong : Value.long (String.ofList ((trimChars s.toList).takeWhile isAsciiDigit)) key with
      | ok n =>
        rw [hlong] at h
        cases h
      | error e =>
        rw [hlong] at h
        cases h
        refine ⟨_, _, hdigits, (long_eq_tooManyDigits_iff hdigits).mp hlong, hread.2, ?_⟩
        have hcs := List.takeWhile_append_dropWhile (p := isAsciiDigit) (l := trimChars s.toList)
        rcases eq_behindSpace ((trimChars s.toList).dropWhile isAsciiDigit) with hrest | hrest
        · exact .inl (by rw [← hrest, hcs])
        · exact .inr (by rw [← hrest, hcs])
  · rintro ⟨digits, units, hd, hlong, hu, hcs⟩
    have hparts : (trimChars s.toList).takeWhile isAsciiDigit = digits ∧
        behindSpace ((trimChars s.toList).dropWhile isAsciiDigit) = units := by
      rcases hcs with hcs | hcs
      · exact hcs ▸ parts_append hd hu (.inl rfl)
      · exact hcs ▸ parts_append hd hu (.inr rfl)
    have hread : (digits.isEmpty || !units.all Char.isAlpha) = false := by
      rw [List.all_eq_true.mpr hu, List.isEmpty_eq_false_iff.mpr (List.ne_nil_of_length_pos (Nat.zero_lt_of_lt hlong))]
      rfl
    rw [hparts.1, hparts.2, hread, (long_eq_tooManyDigits_iff hd).mpr hlong]
    rfl

end Item

namespace Ranges

theorem failsAs_parse (s : String) (key : Option String) :
    FailsAs Error.IsRefusal (parse s key) := by
  unfold parse
  split
  · exact failsAs_ok _
  · exact failsAs_error (.inl rfl)
  · exact failsAs_error (.inr rfl)

def IsOverlongEnd (cs : List Char) : Prop :=
  ∃ digits, IsPadded digits cs ∧ Integer.maxDigits < digits.length

/-- An item that is overlong: it is a number that is, or a span with such a lower end, or with such an upper end
behind a lower end that is read. -/
inductive IsOverlong : List Char → Prop where
  | number {cs : List Char} (h : IsOverlongEnd cs) : IsOverlong cs
  | low {before after : List Char} (h : IsOverlongEnd before) (ha : '-' ∉ after) : IsOverlong (before ++ '-' :: after)
  | high {digits before after : List Char} (hd : IsPadded digits before) (hl : digits.length ≤ Integer.maxDigits)
      (h : IsOverlongEnd after) : IsOverlong (before ++ '-' :: after)

theorem bound_eq_tooManyDigits_iff {cs : List Char} {default : Nat} :
    bound cs default = .error .tooManyDigits ↔ IsOverlongEnd cs := by
  rw [bound_eq, IsOverlongEnd]
  simp only [isPadded_iff, ← List.all_eq_true]
  constructor
  · intro h
    split at h
    · rename_i hd
      split at h
      · cases h
      · rename_i hl
        exact ⟨_, ⟨rfl, hd⟩, Nat.not_le.mp hl⟩
    · cases h
  · rintro ⟨digits, ⟨rfl, hd⟩, hl⟩
    rw [if_pos hd, if_neg (Nat.not_le.mpr hl)]

theorem span_pair_eq_tooManyDigits_iff {before after : List Char} (hb : '-' ∉ before) (ha : '-' ∉ after) :
    span (before ++ '-' :: after) = .error .tooManyDigits ↔
      bound before 0 = .error .tooManyDigits ∨
        (∃ n, bound before 0 = .ok n) ∧ bound after Integer.maxInt.toNat = .error .tooManyDigits := by
  have hpieces : splitChars '-' (before ++ '-' :: after) = [before, after] := by
    rw [splitChars_eq_splitOn, splitOn_eq_pair_iff]
    exact ⟨rfl, hb, ha⟩
  simp only [span, hpieces]
  cases bound before 0 with
  | error e => simp [bind, Except.bind]
  | ok low =>
    cases bound after Integer.maxInt.toNat with
    | error e => simp [bind, Except.bind]
    | ok high => by_cases h : low ≤ high <;> simp [bind, Except.bind, h]

theorem isOverlongEnd_congr {cs ds : List Char} (h : trimChars cs = trimChars ds) :
    IsOverlongEnd cs ↔ IsOverlongEnd ds := by
  simp only [IsOverlongEnd, isPadded_iff, h]

theorem span_eq_tooManyDigits_iff {item : List Char} : span item = .error .tooManyDigits ↔ IsOverlong item := by
  constructor
  · intro h
    have hwellFormed : span item ≠ .error .malformed := by simp [h]
    rcases parts_of_span hwellFormed with hm | ⟨before, after, rfl, hb, ha⟩
    · rw [span_of_notMem hm] at h
      cases hbound : bound item 0 with
      | ok n =>
        rw [hbound] at h
        cases h
      | error e =>
        rw [hbound] at h
        cases h
        exact .number (bound_eq_tooManyDigits_iff.mp hbound)
    · rcases (span_pair_eq_tooManyDigits_iff hb ha).mp h with h | ⟨⟨n, hn⟩, h⟩
      · exact .low (bound_eq_tooManyDigits_iff.mp h) ha
      · obtain ⟨digits, hd, hl, -⟩ := bound_eq_ok_iff.mp hn
        exact .high hd hl (bound_eq_tooManyDigits_iff.mp h)
  · intro h
    cases h with
    | number h =>
      obtain ⟨digits, hd, -⟩ := id h
      rw [span_of_notMem hd.notMem, bound_eq_tooManyDigits_iff.mpr h]
      rfl
    | low h ha =>
      obtain ⟨digits, hd, -⟩ := id h
      exact (span_pair_eq_tooManyDigits_iff hd.notMem ha).mpr (.inl (bound_eq_tooManyDigits_iff.mpr h))
    | high hd hl h =>
      obtain ⟨digits, hdigits, -⟩ := id h
      exact (span_pair_eq_tooManyDigits_iff hd.notMem hdigits.notMem).mpr
        (.inr ⟨⟨_, bound_eq_ok_iff.mpr ⟨_, hd, hl, rfl⟩⟩, bound_eq_tooManyDigits_iff.mpr h⟩)

theorem isOverlong_trimChars_iff {cs : List Char} : IsOverlong (trimChars cs) ↔ IsOverlong cs := by
  constructor
  · intro h
    obtain ⟨before, after, hb, ha, hcs⟩ := exists_eq_trimChars cs
    have hnone : ∀ c ∈ ([] : List Char), isBlank c = true := fun _ hc => absurd hc List.not_mem_nil
    have hhyphen : ∀ ds : List Char, (∀ c ∈ ds, isBlank c = true) → '-' ∉ ds := fun ds hds hm => by
      cases hds '-' hm
    have hend : ∀ as cs bs : List Char, (∀ c ∈ as, isBlank c = true) → (∀ c ∈ bs, isBlank c = true) →
        IsOverlongEnd cs → IsOverlongEnd (as ++ cs ++ bs) := fun as cs bs has hbs h =>
      (isOverlongEnd_congr (trimChars_between has hbs cs)).mpr h
    rw [hcs]
    generalize trimChars cs = item at h
    cases h with
    | number h => exact .number (hend _ _ _ hb ha h)
    | @low low high h hm =>
      have hlow : IsOverlong ((before ++ low ++ []) ++ '-' :: (high ++ after)) :=
        .low (hend _ _ _ hb hnone h) (by simp [hm, hhyphen after ha])
      simpa using hlow
    | @high digits low high hd hl h =>
      have hhigh : IsOverlong ((before ++ low ++ []) ++ '-' :: ([] ++ high ++ after)) :=
        .high (hd.between hb hnone) hl (hend _ _ _ hnone ha h)
      simpa using hhigh
  · intro h
    cases h with
    | number h => exact .number ((isOverlongEnd_congr (trimChars_trimChars cs)).mpr h)
    | @low before after h ha =>
      rw [trimChars_append_cons (by decide)]
      refine .low ((isOverlongEnd_congr (trimChars_dropBlanks before)).mpr h) fun hm => ha ?_
      exact List.mem_reverse.mp ((List.dropWhile_sublist isBlank).subset (List.mem_reverse.mp hm))
    | @high digits before after hd hl h =>
      rw [trimChars_append_cons (by decide)]
      refine .high (isPadded_iff.mpr ?_) hl ((isOverlongEnd_congr (trimChars_dropBlanksEnd after)).mpr h)
      rw [trimChars_dropBlanks]
      exact isPadded_iff.mp hd

/-- An item that is blank, or makes a span. -/
def IsAccepted (cs : List Char) : Prop :=
  (∀ c ∈ cs, isBlank c = true) ∨
    ∃ i : Item, i.IsWritten cs ∧ i.IsOrdered ∧ (i.IsOpen → i.low ≤ Integer.maxInt) ∧ i.IsShort

theorem isAccepted_iff {cs : List Char} :
    IsAccepted cs ↔ (trimChars cs ≠ [] → ∃ s, span (trimChars cs) = .ok s) := by
  rw [IsAccepted, ← trimChars_eq_nil_iff]
  by_cases hn : trimChars cs = []
  · simp [hn]
  · simp [hn, exists_span_iff hn]

theorem exists_items_append_iff {s : String} {p q : List Char → Prop} :
    (∃ before item after, items s = before ++ item :: after ∧ (∀ x ∈ before, p x) ∧ q item) ↔
      ∃ before cs after, s.toList.splitOn ',' = before ++ cs :: after ∧
        (∀ b ∈ before, trimChars b ≠ [] → p (trimChars b)) ∧ trimChars cs ≠ [] ∧ q (trimChars cs) := by
  rw [items, splitChars_eq_splitOn]
  constructor
  · rintro ⟨before, item, after, h, hp, hq⟩
    obtain ⟨shown, rest, hcs, rfl, hrest⟩ := List.filter_eq_append_iff.mp h
    obtain ⟨blank, others, rfl, hblank, hitem, -⟩ := List.filter_eq_cons_iff.mp hrest
    rw [← List.append_assoc] at hcs
    obtain ⟨first, second, hsplit, hfirst, hsecond⟩ := List.map_eq_append_iff.mp hcs
    obtain ⟨cs, last, rfl, rfl, -⟩ := List.map_eq_cons_iff.mp hsecond
    refine ⟨first, cs, last, hsplit, fun b hb hn => ?_, by simpa using hitem, hq⟩
    have hb : trimChars b ∈ shown ++ blank := hfirst ▸ List.mem_map_of_mem hb
    rcases List.mem_append.mp hb with hb | hb
    · exact hp _ (List.mem_filter.mpr ⟨hb, by simpa using hn⟩)
    · exact absurd (by simpa using hn) (hblank _ hb)
  · rintro ⟨before, cs, after, hsplit, hp, hn, hq⟩
    refine ⟨(before.map trimChars).filter (!·.isEmpty), trimChars cs,
      (after.map trimChars).filter (!·.isEmpty), ?_, ?_, hq⟩
    · rw [hsplit, List.map_append, List.map_cons, List.filter_append, List.filter_cons_of_pos (by simpa using hn)]
    · intro x hx
      obtain ⟨hx, hne⟩ := List.mem_filter.mp hx
      obtain ⟨b, hb, rfl⟩ := List.mem_map.mp hx
      exact hp b hb (by simpa using hne)

theorem refuses_parse (s : String) (key : Option String) :
    Refuses (∃ before cs after, s.toList.splitOn ',' = before ++ cs :: after ∧ (∀ b ∈ before, IsAccepted b) ∧
      IsOverlong cs) (parse s key) := by
  refine ⟨failsAs_parse s key, ?_⟩
  have hparse : parse s key = .error .tooManyDigits ↔ (items s).mapM span = .error .tooManyDigits := by
    unfold parse
    cases (items s).mapM span with
    | ok spans => simp
    | error e => cases e <;> simp
  have hblank : ∀ cs, IsOverlong cs → trimChars cs ≠ [] := fun cs h hn => by
    have hspan := span_eq_tooManyDigits_iff.mpr (isOverlong_trimChars_iff.mpr h)
    rw [hn] at hspan
    cases hspan
  rw [hparse, mapM_eq_error_iff, exists_items_append_iff (q := fun item => span item = .error .tooManyDigits)]
  simp only [isAccepted_iff, span_eq_tooManyDigits_iff, isOverlong_trimChars_iff]
  constructor
  · rintro ⟨before, cs, after, hcs, hb, -, h⟩
    exact ⟨before, cs, after, hcs, hb, h⟩
  · rintro ⟨before, cs, after, hcs, hb, h⟩
    exact ⟨before, cs, after, hcs, hb, hblank cs h, h⟩

end Ranges

/-- Every reader of numbers refuses a text that it does not read as a value, but for overlong ones. These are decimal
integers with more than 4300 digits, also in front of a suffix or units, and the first item of some ranges that is not
read, if it is overlong. -/
theorem numbers_refused (s : String) (key : Option String) :
    Refuses (Integer.IsOverlong (trimChars s.toList)) (Value.int s key) ∧
    Refuses (Integer.IsOverlong (trimChars s.toList)) (Value.long s key) ∧
    Refuses (IsOverlongBefore Value.IsBinarySuffix (trimChars s.toList)) (Value.byteCount s key) ∧
    (∀ asked, Refuses (IsOverlongBefore (fun cs => ∃ u : TimeUnit, u.IsSuffix cs) (trimChars s.toList))
      (Duration.parse s asked key)) ∧
    Refuses (Item.IsOverlong (trimChars s.toList)) (Item.amount s key) ∧
    Refuses (∃ before cs after, s.toList.splitOn ',' = before ++ cs :: after ∧
      (∀ b ∈ before, Ranges.IsAccepted b) ∧ Ranges.IsOverlong cs) (Ranges.parse s key) :=
  ⟨Value.refuses_bounded _ _ _ key s, Value.refuses_bounded _ _ _ key s, Value.refuses_byteCount s key,
    fun asked => Duration.refuses_parse s asked key, Item.refuses_amount s key, Ranges.refuses_parse s key⟩

/-- One digit too many, and the text is neither read nor refused as a value. -/
theorem overlong_not_refused :
    let s := String.ofList (List.replicate 4301 '1')
    ¬ ((∃ n, Value.int s none = .ok n) ∨ ∃ e, Value.int s none = .error e ∧ e.kind = .invalidValue) := by
  intro s
  have hdigit : ∀ c ∈ List.replicate 4301 '1', isAsciiDigit c = true := fun c hc =>
    List.eq_of_mem_replicate hc ▸ rfl
  have hs : Integer.IsOverlong (trimChars s.toList) := by
    rw [String.toList_ofList, trimChars_eq_self fun c hc => isBlank_of_isAsciiDigit (hdigit c hc)]
    refine ⟨_, false, .plain, fun c hc => isDecimalDigit_of_isAsciiDigit (hdigit c hc), ?_⟩
    rw [List.length_replicate]
    decide
  rw [Value.int, Value.bounded_of_isOverlong hs]
  rintro (⟨n, hn⟩ | ⟨e, he, hkind⟩)
  · cases hn
  · cases he
    cases hkind

end ConfigLayers
