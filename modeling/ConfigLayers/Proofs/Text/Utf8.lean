import ConfigLayers.Text.Utf8

/-! The UTF-8 form of a text determines the text. -/
namespace ConfigLayers
namespace Utf8

theorem units_cons {b : UInt8} {bs left : Bytes} {payload more low high n : Nat}
    (hl : lead? b.toNat = some ⟨payload, more, low, high⟩) (hf : follow payload low high more bs = (some n, left)) :
    units (b :: bs) = some (Char.ofNat n) :: units left := by
  rw [units, hl]
  simp [hf]

theorem follow_next {payload low high more d : Nat} {bs : Bytes} (h : low ≤ d % 64 + 128 ∧ d % 64 + 128 ≤ high) :
    follow payload low high (more + 1) (UInt8.ofNat (d % 64 + 128) :: bs)
      = follow (payload * 64 + d % 64) 0x80 0xbf more bs := by
  have hb : (UInt8.ofNat (d % 64 + 128)).toNat = d % 64 + 128 := by simp; omega
  have hd : (d % 64 + 128) % 64 = d % 64 := by omega
  rw [follow, hb, hd, if_pos (by simpa using h)]

theorem toNat_valid (c : Char) : c.val.toNat < 0xd800 ∨ (0xdfff < c.val.toNat ∧ c.val.toNat < 0x110000) :=
  c.valid

section

variable {v : Nat} (bs : Bytes)

theorem units_one (h : v ≤ 0x7f) : units (UInt8.ofNat v :: bs) = some (Char.ofNat v) :: units bs := by
  have hb : (UInt8.ofNat v).toNat = v := by simp; omega
  have hl : lead? (UInt8.ofNat v).toNat = some ⟨v, 0, 0, 0⟩ := by rw [hb, lead?, if_pos (by omega)]
  exact units_cons hl rfl

theorem units_two (h : 0x7f < v) (h' : v ≤ 0x7ff) :
    units (UInt8.ofNat (v / 64 % 32 + 192) :: UInt8.ofNat (v % 64 + 128) :: bs) = some (Char.ofNat v) :: units bs := by
  have hb : (UInt8.ofNat (v / 64 % 32 + 192)).toNat = v / 64 + 192 := by simp; omega
  have hl : lead? (v / 64 + 192) = some ⟨v / 64, 1, 0x80, 0xbf⟩ := by
    rw [lead?, if_neg (by omega), if_neg (by omega), if_pos (by omega), Nat.add_sub_cancel]
  have hv : v / 64 * 64 + v % 64 = v := by omega
  refine units_cons (hb ▸ hl) ?_
  rw [follow_next (by omega), follow, hv]

theorem units_three (h : 0x7ff < v) (h' : v ≤ 0xffff) (hs : v < 0xd800 ∨ 0xdfff < v) :
    units (UInt8.ofNat (v / 4096 % 16 + 224) :: UInt8.ofNat (v / 64 % 64 + 128) :: UInt8.ofNat (v % 64 + 128) :: bs)
      = some (Char.ofNat v) :: units bs := by
  have hb : (UInt8.ofNat (v / 4096 % 16 + 224)).toNat = v / 4096 + 224 := by simp; omega
  have hl : lead? (v / 4096 + 224) = some ⟨v / 4096, 2, if v / 4096 + 224 = 0xe0 then 0xa0 else 0x80,
      if v / 4096 + 224 = 0xed then 0x9f else 0xbf⟩ := by
    rw [lead?, if_neg (by omega), if_neg (by omega), if_neg (by omega), if_pos (by omega), Nat.add_sub_cancel]
  have hv : (v / 4096 * 64 + v / 64 % 64) * 64 + v % 64 = v := by omega
  refine units_cons (hb ▸ hl) ?_
  rw [follow_next (by split <;> split <;> omega), follow_next (by omega), follow, hv]

theorem units_four (h : 0xffff < v) (h' : v < 0x110000) :
    units (UInt8.ofNat (v / 262144 % 8 + 240) :: UInt8.ofNat (v / 4096 % 64 + 128) :: UInt8.ofNat (v / 64 % 64 + 128)
      :: UInt8.ofNat (v % 64 + 128) :: bs) = some (Char.ofNat v) :: units bs := by
  have hb : (UInt8.ofNat (v / 262144 % 8 + 240)).toNat = v / 262144 + 240 := by simp; omega
  have hl : lead? (v / 262144 + 240) = some ⟨v / 262144, 3, if v / 262144 + 240 = 0xf0 then 0x90 else 0x80,
      if v / 262144 + 240 = 0xf4 then 0x8f else 0xbf⟩ := by
    rw [lead?, if_neg (by omega), if_neg (by omega), if_neg (by omega), if_neg (by omega), if_pos (by omega),
      Nat.add_sub_cancel]
  have hv : ((v / 262144 * 64 + v / 4096 % 64) * 64 + v / 64 % 64) * 64 + v % 64 = v := by omega
  refine units_cons (hb ▸ hl) ?_
  rw [follow_next (by split <;> split <;> omega), follow_next (by omega), follow_next (by omega), follow, hv]

end

theorem units_encodeChar (c : Char) (bs : Bytes) : units (encodeChar c ++ bs) = some c :: units bs := by
  have hv := toNat_valid c
  have hc : Char.ofNat c.val.toNat = c := Char.ofNat_toNat c
  unfold encodeChar String.utf8EncodeChar
  generalize c.val.toNat = v at hv hc
  subst hc
  dsimp only
  split
  · exact units_one bs (by omega)
  · split
    · exact units_two bs (by omega) (by omega)
    · split
      · exact units_three bs (by omega) (by omega) (by omega)
      · exact units_four bs (by omega) (by omega)

theorem units_encode (cs : List Char) : units (encode cs) = cs.map some := by
  induction cs with
  | nil => rw [encode, List.flatMap_nil, units, List.map_nil]
  | cons c cs ih =>
    have he : encode (c :: cs) = encodeChar c ++ encode cs := rfl
    rw [he, units_encodeChar, ih, List.map_cons]

theorem decode?_encode (cs : List Char) : decode? (encode cs) = some cs := by
  rw [decode?, units_encode]
  induction cs with
  | nil => rfl
  | cons c cs ih => simp_all

end Utf8
end ConfigLayers
