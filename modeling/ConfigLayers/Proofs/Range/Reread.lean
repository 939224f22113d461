import ConfigLayers.Proofs.Number.Digits
import ConfigLayers.Proofs.Range.Items

/-! The text of ranges is read back as the same spans in the same order. It is a normal form: of all texts that say
the same spans it is the only one that is printed. -/
namespace ConfigLayers
namespace Ranges

open Text Integer

def Item.ofSpan (s : Span) : Item :=
  if s.low = s.high then .number (digitsOf s.low) else .span (digitsOf s.low) (digitsOf s.high)

theorem isPadded_digitsOf (n : Nat) : IsPadded (digitsOf n) (digitsOf n) :=
  ⟨fun _ => isAsciiDigit_of_mem_digitsOf, [], [], by simp⟩

section

variable (s : Span)

theorem Item.isWritten_ofSpan : (Item.ofSpan s).IsWritten s.text.toList := by
  unfold ofSpan Span.text
  split
  · rw [natText, String.toList_ofList]
    exact .number (digitsOf_ne_nil s.low) (isPadded_digitsOf s.low)
  · have htext : (natText s.low ++ "-" ++ natText s.high).toList = digitsOf s.low ++ '-' :: digitsOf s.high := by
      simp [natText]
    rw [htext]
    exact .span (isPadded_digitsOf s.low) (isPadded_digitsOf s.high)

theorem Item.low_ofSpan : (Item.ofSpan s).low = s.low := by
  unfold ofSpan
  split
  · exact asciiValue_digitsOf s.low
  · exact asciiValue_digitsOf s.low

theorem Item.top_ofSpan : (Item.ofSpan s).top = s.high := by
  unfold ofSpan
  split
  · rename_i h
    exact h ▸ asciiValue_digitsOf s.low
  · exact (if_neg (digitsOf_ne_nil s.high)).trans (asciiValue_digitsOf s.high)

end

theorem Item.isShort_ofSpan {s : Span} (h : s.high < 10 ^ maxDigits) : (Item.ofSpan s).IsShort := by
  have hmax : 0 < maxDigits := by decide
  have hhigh : (digitsOf s.high).length ≤ maxDigits := length_digitsOf_le hmax h
  have hlow : (digitsOf s.low).length ≤ maxDigits := length_digitsOf_le hmax (Nat.lt_of_le_of_lt s.low_le_high h)
  unfold ofSpan
  split <;> simp [IsShort, Item.digits, hlow, hhigh]

theorem span_text {s : Span} (h : s.high < 10 ^ maxDigits) : span (trimChars s.text.toList) = .ok s :=
  span_of_item (Item.isWritten_ofSpan s) (Item.isShort_ofSpan h) (Item.low_ofSpan s) (Item.top_ofSpan s)

theorem Item.IsWritten.notMem {i : Item} {cs : List Char} (h : i.IsWritten cs) : ',' ∉ cs := by
  cases h with
  | number hn h => exact h.notMem_of (by decide) (by decide)
  | span hl hh =>
    have hlow := hl.notMem_of (c := ',') (by decide) (by decide)
    have hhigh := hh.notMem_of (c := ',') (by decide) (by decide)
    simp [hlow, hhigh]

theorem items_text (r : Ranges) : items r.text = r.spans.map fun s => trimChars s.text.toList := by
  obtain ⟨spans⟩ := r
  cases spans with
  | nil => rfl
  | cons first rest =>
    let pieces := (first :: rest).map fun s => s.text.toList
    have hpieces : (text ⟨first :: rest⟩).toList.splitOn ',' = pieces := by
      rw [text, toList_join, splitOn_eq_iff, List.map_map]
      refine ⟨List.cons_ne_nil _ _, fun piece hp => ?_, rfl⟩
      obtain ⟨s, -, rfl⟩ := List.mem_map.mp hp
      exact (Item.isWritten_ofSpan s).notMem
    have hfull : ∀ item ∈ pieces.map trimChars, (!item.isEmpty) = true := by
      intro item hitem
      obtain ⟨piece, hp, rfl⟩ := List.mem_map.mp hitem
      obtain ⟨s, -, rfl⟩ := List.mem_map.mp hp
      simpa using (Item.isWritten_ofSpan s).ne_nil
    rw [items, splitChars_eq_splitOn, hpieces, List.filter_eq_self.mpr hfull, List.map_map]
    rfl

theorem parse_text {r : Ranges} (h : ∀ s ∈ r.spans, s.high < 10 ^ maxDigits) (key : Option String) :
    parse r.text key = .ok r := by
  rw [parse_eq_ok_iff, items_text, mapM_eq_ok_iff, List.forall₂_map_left_iff, List.forall₂_same]
  exact fun s hs => span_text (h s hs)

theorem Item.IsWritten.top_lt {i : Item} {cs : List Char} (h : i.IsWritten cs) (hs : i.IsShort) :
    i.top < 10 ^ maxDigits := by
  have hend : ∀ digits ∈ i.digits, (∀ c ∈ digits, isAsciiDigit c = true) → asciiValue digits < 10 ^ maxDigits :=
    fun digits hd ha => Nat.lt_of_lt_of_le (asciiValue_lt ha) (Nat.pow_le_pow_right (by decide) (hs digits hd))
  cases h with
  | number hn h => exact hend _ (by simp [digits]) h.1
  | @span low high _ _ hl hh =>
    show (if high = [] then maxInt.toNat else asciiValue high) < 10 ^ maxDigits
    split
    · calc maxInt.toNat < 10 ^ 10 := by decide
        _ ≤ 10 ^ maxDigits := Nat.pow_le_pow_right (by decide) (by decide)
    · exact hend high (by simp [digits]) hh.1

theorem high_lt_of_parse {s : String} {key : Option String} {r : Ranges} (h : parse s key = .ok r) :
    ∀ sp ∈ r.spans, sp.high < 10 ^ maxDigits := by
  intro sp hsp
  obtain ⟨item, hitem, hspan⟩ := exists_of_mem_of_mapM (parse_eq_ok_iff.mp h) hsp
  obtain ⟨cs, -, hn, rfl⟩ := mem_items_iff.mp hitem
  obtain ⟨i, hi, hs, -, htop⟩ := exists_item_of_span hn hspan
  exact htop ▸ hi.top_lt hs

/-- The text of ranges that have been read is read as the same ranges, and it is the same text only for texts that
are read as the same spans in the same order. -/
theorem text_normal_form {s : String} {key : Option String} {r : Ranges} (h : parse s key = .ok r) :
    (∀ other, parse r.text other = .ok r) ∧
      ∀ s' key' r', parse s' key' = .ok r' → (r'.text = r.text ↔ r'.spans = r.spans) := by
  have hr : ∀ other, parse r.text other = .ok r := parse_text (high_lt_of_parse h)
  refine ⟨hr, fun s' key' r' h' => ⟨fun ht => ?_, fun hs => ?_⟩⟩
  · have hr' : parse r'.text none = .ok r' := parse_text (high_lt_of_parse h') none
    rw [ht, hr none] at hr'
    cases hr'
    rfl
  · rw [text, text, hs]

/-- Blanks, leading zeros and missing ends are not printed, and a span of one number is printed as the number. -/
theorem text_normal_form_written_out :
    let r : Ranges := ⟨[⟨5, 7, by decide⟩, ⟨34, 2147483647, by decide⟩, ⟨0, 9, by decide⟩, ⟨8, 8, by decide⟩]⟩
    parse " 05- 7,, 34-,-9 ,8-8" none = .ok r ∧ parse "5-7,34-,0-9,8" (some "key") = .ok r ∧
      r.text = "5-7,34-2147483647,0-9,8" ∧ parse r.text none = .ok r ∧
      parse "5-7,8" none = .ok ⟨[⟨5, 7, by decide⟩, ⟨8, 8, by decide⟩]⟩ ∧
      text ⟨[⟨5, 7, by decide⟩, ⟨8, 8, by decide⟩]⟩ ≠ r.text := by
  intro r
  have h : parse " 05- 7,, 34-,-9 ,8-8" none = .ok r := by rfl
  have h' : parse "5-7,8" none = .ok ⟨[⟨5, 7, by decide⟩, ⟨8, 8, by decide⟩]⟩ := by rfl
  obtain ⟨hread, hunique⟩ := text_normal_form h
  exact ⟨h, by rfl, by decide +kernel, hread none, h', fun ht => absurd ((hunique _ _ _ h').mp ht) (by decide)⟩

end Ranges
end ConfigLayers
