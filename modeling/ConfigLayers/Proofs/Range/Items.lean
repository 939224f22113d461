import ConfigLayers.Proofs.Failing
import ConfigLayers.Proofs.Text.Digit
import ConfigLayers.Proofs.Text.Split
import ConfigLayers.Range

/-! What the text of some ranges says, item by item, and the ranges that are read from it. A missing upper end stands
for the largest integer of 32 bits, so that an open span leaves out what lies above. -/
namespace ConfigLayers
namespace Ranges

open Text

/-- Digits in ASCII between blanks, or blanks alone. -/
def IsPadded (digits cs : List Char) : Prop :=
  (∀ c ∈ digits, isAsciiDigit c = true) ∧
    ∃ before after, (∀ c ∈ before, isBlank c = true) ∧ (∀ c ∈ after, isBlank c = true) ∧
      cs = before ++ digits ++ after

/-- An item as it is written: the digits of a number, or of the two ends of a span. A missing end has none. -/
inductive Item where
  | number (digits : List Char)
  | span (low high : List Char)

namespace Item

/-- The texts of an item. -/
inductive IsWritten : Item → List Char → Prop where
  | number {digits cs : List Char} (hn : digits ≠ []) (h : IsPadded digits cs) : IsWritten (.number digits) cs
  | span {low high before after : List Char} (hl : IsPadded low before) (hh : IsPadded high after) :
      IsWritten (.span low high) (before ++ '-' :: after)

/-- What an item says: a number itself, a span all from its lower end, or 0 without one, to its upper end if it has
one. -/
def Includes : Item → Int → Prop
  | number digits, x => x = asciiValue digits
  | span low high, x => asciiValue low ≤ x ∧ (high = [] ∨ x ≤ asciiValue high)

def IsOrdered : Item → Prop
  | number _ => True
  | span low high => high = [] ∨ asciiValue low ≤ asciiValue high

/-- A span without an upper end. -/
def IsOpen : Item → Prop
  | number _ => False
  | span _ high => high = []

def digits : Item → List (List Char)
  | number digits => [digits]
  | span low high => [low, high]

/-- The lower end, 0 where it is missing. -/
def low : Item → Nat
  | number digits => asciiValue digits
  | span low _ => asciiValue low

def top : Item → Nat
  | number digits => asciiValue digits
  | span _ high => if high = [] then Integer.maxInt.toNat else asciiValue high

/-- No more digits than an integer may have. -/
def IsShort (i : Item) : Prop :=
  ∀ ds ∈ i.digits, ds.length ≤ Integer.maxDigits

instance (i : Item) : Decidable i.IsShort :=
  inferInstanceAs (Decidable (∀ ds ∈ i.digits, ds.length ≤ Integer.maxDigits))

end Item

theorem isPadded_iff {digits cs : List Char} :
    IsPadded digits cs ↔ trimChars cs = digits ∧ ∀ c ∈ digits, isAsciiDigit c = true := by
  constructor
  · rintro ⟨hd, before, after, hb, ha, rfl⟩
    refine ⟨?_, hd⟩
    rw [trimChars_between hb ha]
    exact trimChars_eq_self fun c hc => isBlank_of_isAsciiDigit (hd c hc)
  · rintro ⟨rfl, hd⟩
    obtain ⟨before, after, hb, ha, hcs⟩ := exists_eq_trimChars cs
    exact ⟨hd, before, after, hb, ha, hcs⟩

instance (digits cs : List Char) : Decidable (IsPadded digits cs) :=
  decidable_of_iff (trimChars cs = digits ∧ digits.all isAsciiDigit = true) (by rw [isPadded_iff, List.all_eq_true])

theorem IsPadded.notMem_of {digits cs : List Char} (h : IsPadded digits cs) {c : Char} (hb : isBlank c = false)
    (hd : isAsciiDigit c = false) : c ∉ cs := by
  obtain ⟨hdigits, before, after, hbefore, hafter, rfl⟩ := h
  intro hm
  rcases List.mem_append.mp hm with hm | hm
  · rcases List.mem_append.mp hm with hm | hm
    · simp [hbefore c hm] at hb
    · simp [hdigits c hm] at hd
  · simp [hafter c hm] at hb

theorem IsPadded.notMem {digits cs : List Char} (h : IsPadded digits cs) : '-' ∉ cs :=
  h.notMem_of (by decide) (by decide)

theorem bound_eq (cs : List Char) (default : Nat) :
    bound cs default =
      if (trimChars cs).all isAsciiDigit = true then
        if (trimChars cs).length ≤ Integer.maxDigits then
          .ok (if trimChars cs = [] then default else asciiValue (trimChars cs))
        else .error .tooManyDigits
      else .error .malformed := by
  unfold bound
  cases trimChars cs with
  | nil => rfl
  | cons c ds =>
    simp only [reduceCtorEq, if_false]
    split
    · rename_i hd
      have hread : Integer.unsigned? (c :: ds) = some (asciiValue (c :: ds)) :=
        ofDigits?_of_isAsciiDigit (List.all_eq_true.mp hd)
      rw [hread]
      rfl
    · rfl

theorem IsPadded.unique {ds es cs : List Char} (hd : IsPadded ds cs) (he : IsPadded es cs) : ds = es :=
  (isPadded_iff.mp hd).1.symm.trans (isPadded_iff.mp he).1

theorem Item.IsWritten.ne_nil {i : Item} {cs : List Char} (h : i.IsWritten cs) : trimChars cs ≠ [] := by
  cases h with
  | number hn h => exact (isPadded_iff.mp h).1 ▸ hn
  | span hl hh =>
    rw [trimChars_append_cons (by decide)]
    simp

theorem Item.IsWritten.unique {i j : Item} {cs : List Char} (hi : i.IsWritten cs) (hj : j.IsWritten cs) : i = j := by
  cases hi with
  | @number ds _ hds hd =>
    cases hj with
    | @number es _ hes he => rw [hd.unique he]
    | span => exact absurd (by simp) hd.notMem
  | @span low high before after hl hh =>
    generalize hcs : before ++ '-' :: after = cs at hj
    cases hj with
    | @number es _ hes he => exact absurd (by simp) (hcs ▸ he.notMem)
    | @span low' high' before' after' hl' hh' =>
      have h := splitOn_eq_pair_iff.mpr ⟨hcs.symm, hl.notMem, hh.notMem⟩
      have h' := splitOn_eq_pair_iff.mpr ⟨rfl, hl'.notMem, hh'.notMem⟩
      obtain ⟨rfl, rfl⟩ : before = before' ∧ after = after' := by simpa using h.symm.trans h'
      rw [hl.unique hl', hh.unique hh']

theorem bound_eq_ok_iff {cs : List Char} {default n : Nat} :
    bound cs default = .ok n ↔
      ∃ digits, IsPadded digits cs ∧ digits.length ≤ Integer.maxDigits ∧
        (if digits = [] then default else asciiValue digits) = n := by
  rw [bound_eq]
  simp only [isPadded_iff, ← List.all_eq_true]
  constructor
  · intro h
    split at h
    · rename_i hd
      split at h
      · rename_i hl
        exact ⟨_, ⟨rfl, hd⟩, hl, Except.ok.inj h⟩
      · cases h
    · cases h
  · rintro ⟨digits, ⟨rfl, hd⟩, hl, rfl⟩
    rw [if_pos hd, if_pos hl]

theorem span_of_notMem {item : List Char} (h : '-' ∉ item) :
    span item = (bound item 0).map fun n => ⟨n, n, Nat.le_refl n⟩ := by
  have hpieces : splitChars '-' item = [item] := by
    rw [splitChars_eq_splitOn, splitOn_eq_singleton_iff]
    exact ⟨rfl, h⟩
  simp only [span, hpieces]
  cases bound item 0 with
  | error e => rfl
  | ok n => simp [bind, Except.bind, Except.map]

theorem span_of_pair {before after : List Char} (hb : '-' ∉ before) (ha : '-' ∉ after) {s : Span} :
    span (before ++ '-' :: after) = .ok s ↔
      bound before 0 = .ok s.low ∧ bound after Integer.maxInt.toNat = .ok s.high := by
  have hpieces : splitChars '-' (before ++ '-' :: after) = [before, after] := by
    rw [splitChars_eq_splitOn, splitOn_eq_pair_iff]
    exact ⟨rfl, hb, ha⟩
  simp only [span, hpieces]
  cases bound before 0 with
  | error e => simp [bind, Except.bind]
  | ok low =>
    cases bound after Integer.maxInt.toNat with
    | error e => simp [bind, Except.bind]
    | ok high =>
      obtain ⟨low', high', hs⟩ := s
      by_cases h : low ≤ high
      · simp [bind, Except.bind, h]
      · simp [bind, Except.bind, h]
        omega

theorem parts_of_span {item : List Char} (h : span item ≠ .error .malformed) :
    '-' ∉ item ∨ ∃ before after, item = before ++ '-' :: after ∧ '-' ∉ before ∧ '-' ∉ after := by
  unfold span at h
  rw [splitChars_eq_splitOn] at h
  dsimp only at h
  split at h
  · rename_i number hpieces
    exact .inl (splitOn_eq_singleton_iff.mp hpieces).2
  · rename_i low high hpieces
    exact .inr ⟨low, high, splitOn_eq_pair_iff.mp hpieces⟩
  · exact absurd rfl h

theorem IsPadded.between {digits before cs after : List Char} (h : IsPadded digits cs)
    (hb : ∀ c ∈ before, isBlank c = true) (ha : ∀ c ∈ after, isBlank c = true) :
    IsPadded digits (before ++ cs ++ after) := by
  rw [isPadded_iff, trimChars_between hb ha]
  exact isPadded_iff.mp h

theorem exists_item_of_span {cs : List Char} (hn : trimChars cs ≠ []) {s : Span} (h : span (trimChars cs) = .ok s) :
    ∃ i : Item, i.IsWritten cs ∧ i.IsShort ∧ i.low = s.low ∧ i.top = s.high := by
  have hnone : ∀ c ∈ ([] : List Char), isBlank c = true := fun _ hc => absurd hc List.not_mem_nil
  obtain ⟨before, after, hbefore, hafter, hcs⟩ := exists_eq_trimChars cs
  have hwellFormed : span (trimChars cs) ≠ .error .malformed := by simp [h]
  rcases parts_of_span hwellFormed with hm | ⟨low, high, hitem, hlow, hhigh⟩
  · rw [span_of_notMem hm] at h
    cases hb : bound (trimChars cs) 0 with
    | error e =>
      rw [hb] at h
      cases h
    | ok n =>
      rw [hb] at h
      cases h
      obtain ⟨digits, hd, hl, rfl⟩ := bound_eq_ok_iff.mp hb
      have hdigits : digits ≠ [] := by
        rintro rfl
        exact hn (trimChars_trimChars cs ▸ (isPadded_iff.mp hd).1)
      have hp : IsPadded digits cs := hcs ▸ hd.between hbefore hafter
      refine ⟨.number digits, .number hdigits hp, ?_, (if_neg hdigits).symm, (if_neg hdigits).symm⟩
      simpa [Item.IsShort, Item.digits] using hl
  · rw [hitem, span_of_pair hlow hhigh] at h
    obtain ⟨ds, hds, hl, hlow⟩ := bound_eq_ok_iff.mp h.1
    obtain ⟨es, hes, hl', hhigh⟩ := bound_eq_ok_iff.mp h.2
    have hwritten : Item.IsWritten (.span ds es) ((before ++ low ++ []) ++ '-' :: ([] ++ high ++ after)) :=
      .span (hds.between hbefore hnone) (hes.between hnone hafter)
    have hcs : (before ++ low ++ []) ++ '-' :: ([] ++ high ++ after) = cs := by
      rw [hcs, hitem]
      simp
    refine ⟨.span ds es, hcs ▸ hwritten, by simp [Item.IsShort, Item.digits, hl, hl'], ?_, hhigh⟩
    rw [← hlow]
    cases ds <;> rfl

theorem span_of_item {cs : List Char} {i : Item} {s : Span} (hi : i.IsWritten cs) (hs : i.IsShort)
    (hlow : i.low = s.low) (htop : i.top = s.high) : span (trimChars cs) = .ok s := by
  cases hi with
  | @number digits cs hdigits hp =>
    have ht : IsPadded digits (trimChars cs) := by
      rw [isPadded_iff, trimChars_trimChars]
      exact isPadded_iff.mp hp
    have hl : digits.length ≤ Integer.maxDigits := hs digits (List.mem_singleton_self _)
    have hb : bound (trimChars cs) 0 = .ok (asciiValue digits) :=
      bound_eq_ok_iff.mpr ⟨digits, ht, hl, if_neg hdigits⟩
    obtain ⟨low, high, h⟩ := s
    obtain rfl : asciiValue digits = low := hlow
    obtain rfl : asciiValue digits = high := htop
    rw [span_of_notMem ht.notMem, hb]
    rfl
  | @span low high before after hl hh =>
    have hl' : IsPadded low (dropBlanks before) := by
      rw [isPadded_iff, trimChars_dropBlanks]
      exact isPadded_iff.mp hl
    have hh' : IsPadded high (dropBlanksEnd after) := by
      rw [isPadded_iff, trimChars_dropBlanksEnd]
      exact isPadded_iff.mp hh
    rw [trimChars_append_cons (by decide), span_of_pair hl'.notMem hh'.notMem]
    refine ⟨bound_eq_ok_iff.mpr ⟨low, hl', hs low (by simp [Item.digits]), ?_⟩,
      bound_eq_ok_iff.mpr ⟨high, hh', hs high (by simp [Item.digits]), htop⟩⟩
    rw [← hlow]
    cases low <;> rfl

namespace Item

theorem low_le_top_iff {i : Item} : i.low ≤ i.top ↔ i.IsOrdered ∧ (i.IsOpen → i.low ≤ Integer.maxInt) := by
  have hmax : Integer.maxInt = (Integer.maxInt.toNat : Int) := rfl
  cases i with
  | number digits => simp [low, top, IsOrdered, IsOpen]
  | span ds es =>
    rw [hmax, Int.ofNat_le]
    by_cases hes : es = [] <;> simp [low, top, IsOrdered, IsOpen, hes]

theorem between_iff {i : Item} {x : Int} :
    i.low ≤ x ∧ x ≤ i.top ↔ i.Includes x ∧ (i.IsOpen → x ≤ Integer.maxInt) := by
  have hmax : Integer.maxInt = (Integer.maxInt.toNat : Int) := rfl
  cases i with
  | number digits =>
    simp only [low, top, Includes, IsOpen, false_implies, and_true]
    omega
  | span ds es =>
    by_cases hes : es = []
    · have htop : (span ds es).top = Integer.maxInt.toNat := if_pos hes
      rw [htop, ← hmax]
      simp [low, Includes, IsOpen, hes]
    · have htop : (span ds es).top = asciiValue es := if_neg hes
      rw [htop]
      simp [low, Includes, IsOpen, hes]

end Item

theorem exists_span_iff {cs : List Char} (hn : trimChars cs ≠ []) :
    (∃ s, span (trimChars cs) = .ok s) ↔
      ∃ i : Item, i.IsWritten cs ∧ i.IsOrdered ∧ (i.IsOpen → i.low ≤ Integer.maxInt) ∧ i.IsShort := by
  constructor
  · rintro ⟨s, h⟩
    obtain ⟨i, hi, hs, hlow, htop⟩ := exists_item_of_span hn h
    have hle : i.low ≤ i.top := hlow ▸ htop ▸ s.low_le_high
    obtain ⟨hordered, hopen⟩ := Item.low_le_top_iff.mp hle
    exact ⟨i, hi, hordered, hopen, hs⟩
  · rintro ⟨i, hi, hordered, hopen, hs⟩
    exact ⟨⟨i.low, i.top, Item.low_le_top_iff.mpr ⟨hordered, hopen⟩⟩, span_of_item hi hs rfl rfl⟩

theorem mem_items_iff {s : String} {item : List Char} :
    item ∈ items s ↔ ∃ cs ∈ s.toList.splitOn ',', trimChars cs ≠ [] ∧ trimChars cs = item := by
  rw [items, splitChars_eq_splitOn, List.mem_filter, List.mem_map]
  constructor
  · rintro ⟨⟨cs, hcs, rfl⟩, hn⟩
    exact ⟨cs, hcs, by simpa using hn, rfl⟩
  · rintro ⟨cs, hcs, hn, rfl⟩
    exact ⟨⟨cs, hcs, rfl⟩, by simpa using hn⟩

theorem parse_eq_ok_iff {s : String} {key : Option String} {r : Ranges} :
    parse s key = .ok r ↔ (items s).mapM span = .ok r.spans := by
  obtain ⟨spans⟩ := r
  unfold parse
  cases (items s).mapM span with
  | ok spans => simp
  | error e => cases e <;> simp

/-- What the text of some ranges says is read if every item is blank, a number or a span with its ends in order, and
then the ranges contain what one of the items says; but a span without an upper end ends at the largest integer. -/
theorem parse_meaning (s : String) (key : Option String) :
    ((∃ r, parse s key = .ok r) ↔
      ∀ cs ∈ s.toList.splitOn ',', (∀ c ∈ cs, isBlank c = true) ∨
        ∃ i : Item, i.IsWritten cs ∧ i.IsOrdered ∧ (i.IsOpen → i.low ≤ Integer.maxInt) ∧ i.IsShort) ∧
    ∀ r, parse s key = .ok r → ∀ x : Int,
      r.contains x = true ↔
        ∃ cs ∈ s.toList.splitOn ',', ∃ i : Item, i.IsWritten cs ∧ i.Includes x ∧ (i.IsOpen → x ≤ Integer.maxInt) := by
  constructor
  · have hparse : (∃ r, parse s key = .ok r) ↔ ∃ spans, (items s).mapM span = .ok spans := by
      simp only [parse_eq_ok_iff]
      exact ⟨fun ⟨r, h⟩ => ⟨r.spans, h⟩, fun ⟨spans, h⟩ => ⟨⟨spans⟩, h⟩⟩
    rw [hparse, exists_mapM_eq_ok_iff]
    constructor
    · intro h cs hcs
      by_cases hn : trimChars cs = []
      · exact .inl (trimChars_eq_nil_iff.mp hn)
      · exact .inr ((exists_span_iff hn).mp (h _ (mem_items_iff.mpr ⟨cs, hcs, hn, rfl⟩)))
    · intro h item hitem
      obtain ⟨cs, hcs, hn, rfl⟩ := mem_items_iff.mp hitem
      refine (exists_span_iff hn).mpr ((h cs hcs).resolve_left fun hb => hn (trimChars_eq_nil_iff.mpr hb))
  · intro r hr x
    have hspans : ∀ sp, sp ∈ r.spans ↔ ∃ item ∈ items s, span item = .ok sp :=
      fun sp => mem_iff_of_mapM (parse_eq_ok_iff.mp hr)
    rw [contains_iff]
    constructor
    · rintro ⟨sp, hsp, hx⟩
      obtain ⟨item, hitem, hspan⟩ := (hspans sp).mp hsp
      obtain ⟨cs, hcs, hn, rfl⟩ := mem_items_iff.mp hitem
      obtain ⟨i, hi, -, hlow, htop⟩ := exists_item_of_span hn hspan
      rw [← hlow, ← htop, Item.between_iff] at hx
      exact ⟨cs, hcs, i, hi, hx⟩
    · rintro ⟨cs, hcs, i, hi, hx⟩
      have hn : trimChars cs ≠ [] := hi.ne_nil
      obtain ⟨sp, hspan⟩ := exists_mapM_eq_ok_iff.mp ⟨_, parse_eq_ok_iff.mp hr⟩ _ (mem_items_iff.mpr ⟨cs, hcs, hn, rfl⟩)
      obtain ⟨j, hj, -, hlow, htop⟩ := exists_item_of_span hn hspan
      obtain rfl : i = j := hi.unique hj
      rw [← Item.between_iff, hlow, htop] at hx
      exact ⟨sp, (hspans sp).mpr ⟨_, mem_items_iff.mpr ⟨cs, hcs, hn, rfl⟩, hspan⟩, hx⟩

theorem parse_meaning_blanks :
    ∃ r, parse " 5- 7,,34-" none = .ok r ∧ r.contains 6 = true ∧ r.contains 100 = true := by
  have hpieces : " 5- 7,,34-".toList.splitOn ',' = [" 5- 7".toList, [], "34-".toList] := by decide
  have hlow : IsPadded ['5'] [' ', '5'] := by decide
  have hhigh : IsPadded ['7'] [' ', '7'] := by decide
  have hclosed : Item.IsWritten (.span ['5'] ['7']) " 5- 7".toList := .span hlow hhigh
  have hfrom : IsPadded ['3', '4'] ['3', '4'] := by decide
  have hnone : IsPadded [] [] := by decide
  have hopen : Item.IsWritten (.span ['3', '4'] []) "34-".toList := .span hfrom hnone
  obtain ⟨haccepted, hcontains⟩ := parse_meaning " 5- 7,,34-" none
  rw [hpieces] at haccepted hcontains
  obtain ⟨r, hr⟩ := haccepted.mpr <| by
    intro cs hcs
    simp only [List.mem_cons, List.not_mem_nil, or_false] at hcs
    rcases hcs with rfl | rfl | rfl
    · exact .inr ⟨_, hclosed, .inr (by decide), nofun, by decide⟩
    · exact .inl nofun
    · exact .inr ⟨_, hopen, .inl rfl, fun _ => by decide, by decide⟩
  refine ⟨r, hr, (hcontains r hr 6).mpr ⟨_, by simp, _, hclosed, ?_, nofun⟩,
    (hcontains r hr 100).mpr ⟨_, by simp, _, hopen, ?_, fun _ => by decide⟩⟩
  · exact ⟨by decide, .inr (by decide)⟩
  · exact ⟨by decide, .inl rfl⟩

/-- A span without an upper end says all from its lower end on, but what lies above the largest integer is not in it,
and it is refused if it starts there. -/
theorem open_span_ends :
    (∃ r, parse "34-" none = .ok r ∧ r.contains 2147483648 = false) ∧
      (∃ i : Item, i.IsWritten "34-".toList ∧ i.Includes 2147483648) ∧
      (∃ i : Item, i.IsWritten "3000000000-".toList ∧ i.IsOrdered) ∧
      parse "3000000000-" none = .error (.invalidValue none "3000000000-" "integer range") := by
  have hnone : IsPadded [] [] := by decide
  have hlow : IsPadded "34".toList "34".toList := by decide
  have hlarge : IsPadded "3000000000".toList "3000000000".toList := by decide
  refine ⟨⟨⟨[⟨34, 2147483647, by decide⟩]⟩, by rfl, by decide⟩, ⟨_, .span hlow hnone, by decide, .inl rfl⟩,
    ⟨_, .span hlarge hnone, .inl rfl⟩, by rfl⟩

end Ranges
end ConfigLayers
