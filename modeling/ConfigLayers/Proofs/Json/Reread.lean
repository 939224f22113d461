import ConfigLayers.Json.Printer
import ConfigLayers.Json.Reader
import ConfigLayers.Proofs.Table
import ConfigLayers.Proofs.Text.Utf8

/-! Records of texts are read back as they were written: each text between quotes by its units, and the fields in
their order. -/
namespace ConfigLayers
namespace Json

variable {c : Char} {u : Nat}

theorem hexDigit?_hexChar {n : Nat} (h : n < 16) : Text.hexDigit? (Text.hexChar n) = some n := by
  have hall : ∀ n < 16, Text.hexDigit? (Text.hexChar n) = some n := by decide
  exact hall n h

theorem hexFixed_four (u : Nat) :
    Text.hexFixed u 4 = [Text.hexChar (u / 4096 % 16), Text.hexChar (u / 256 % 16), Text.hexChar (u / 16 % 16),
      Text.hexChar (u % 16)] := by
  simp [Text.hexFixed, Nat.div_div_eq_div_mul]

theorem ofDigits?_hexFixed (h : u < 0x10000) : Text.ofDigits? 16 Text.hexDigit? 0 (Text.hexFixed u 4) = some u := by
  have hd : ∀ n, Text.hexDigit? (Text.hexChar (n % 16)) = some (n % 16) :=
    fun n => hexDigit?_hexChar (Nat.mod_lt n (by decide))
  have hu : (((u / 4096 % 16 * 16) + u / 256 % 16) * 16 + u / 16 % 16) * 16 + u % 16 = u := by omega
  simp [hexFixed_four, Text.ofDigits?, hd, hu]

theorem readUnits?_writtenUnit (h : u < 0x10000) (rest : List Char) :
    readUnits? (writtenUnit u ++ rest) = (readUnits? rest).map fun x => (u :: x.1, x.2) := by
  have hd := ofDigits?_hexFixed h
  rw [hexFixed_four] at hd
  simp only [writtenUnit, hexFixed_four, List.cons_append, List.nil_append, readUnits?, hd]

theorem lt_of_mem_unitsOf (h : u ∈ unitsOf c) : u < 0x10000 := by
  have hv := Utf8.toNat_valid c
  simp only [unitsOf, Char.toNat] at h
  split at h
  · simp only [List.mem_singleton] at h
    omega
  · simp only [List.mem_cons, List.not_mem_nil, or_false] at h
    omega

theorem readUnits?_writtenUnits {us : List Nat} (h : ∀ u ∈ us, u < 0x10000) (rest : List Char) :
    readUnits? (us.flatMap writtenUnit ++ rest) = (readUnits? rest).map fun x => (us ++ x.1, x.2) := by
  induction us with
  | nil => simp
  | cons u us ih =>
    obtain ⟨hu, hus⟩ := List.forall_mem_cons.mp h
    rw [List.flatMap_cons, List.append_assoc, readUnits?_writtenUnit hu, ih hus, Option.map_map]
    rfl

theorem readUnits?_of_isPlain (h : isPlain c = true) (rest : List Char) :
    readUnits? (c :: rest) = (readUnits? rest).map fun x => (c.toNat :: x.1, x.2) := by
  simp only [isPlain, Bool.and_eq_true, decide_eq_true_eq, bne_iff_ne, ne_eq] at h
  obtain ⟨⟨⟨hlow, -⟩, hq⟩, hb⟩ := h
  have hc : ¬ c.toNat < 0x20 := by omega
  rw [readUnits?, if_neg hc]
  · exact hq
  · exact fun _ _ _ _ _ h => absurd h hb
  · exact fun _ _ h => absurd h hb

theorem readUnits?_written (c : Char) (rest : List Char) :
    readUnits? (written c ++ rest) = (readUnits? rest).map fun x => (unitsOf c ++ x.1, x.2) := by
  unfold written
  split
  · rename_i h
    have hc : c.toNat < 0x10000 := by
      simp only [isPlain, Bool.and_eq_true, decide_eq_true_eq] at h
      omega
    rw [List.singleton_append, readUnits?_of_isPlain h, unitsOf, if_pos hc]
    rfl
  · split
    iterate 7 rfl
    exact readUnits?_writtenUnits (fun u hu => lt_of_mem_unitsOf hu) rest

theorem readUnits?_quoted (cs rest : List Char) :
    readUnits? (cs.flatMap written ++ '"' :: rest) = some (cs.flatMap unitsOf, rest) := by
  induction cs with
  | nil => rfl
  | cons c cs ih => rw [List.flatMap_cons, List.append_assoc, readUnits?_written, ih]; rfl

theorem ofUnits_unitsOf (c : Char) (us : List Nat) : ofUnits (unitsOf c ++ us) = c :: ofUnits us := by
  have hv := Utf8.toNat_valid c
  have hc : Char.ofNat c.toNat = c := Char.ofNat_toNat c
  unfold unitsOf
  dsimp only
  split
  · have hs : ¬ (0xd800 ≤ c.toNat ∧ c.toNat < 0xe000) := by
      simp only [Char.toNat]
      omega
    have hl : ¬ (0xd800 ≤ c.toNat ∧ c.toNat < 0xdc00) := fun h => hs ⟨h.1, by omega⟩
    cases us with
    | nil => simp [ofUnits, hs, hc]
    | cons v rest => simp [ofUnits, hs, hl, hc]
  · rename_i hb
    have hn : c.toNat < 0x110000 := by
      simp only [Char.toNat]
      omega
    have hw : 0x10000 + (0xd800 + (c.toNat - 0x10000) / 0x400 - 0xd800) * 0x400 +
        (0xdc00 + (c.toNat - 0x10000) % 0x400 - 0xdc00) = c.toNat := by omega
    rw [List.cons_append, List.cons_append, List.nil_append, ofUnits, if_pos, hw, hc]
    simp only [Bool.and_eq_true, decide_eq_true_eq]
    omega

theorem ofUnits_flatMap_unitsOf (cs : List Char) : ofUnits (cs.flatMap unitsOf) = cs := by
  induction cs with
  | nil => rfl
  | cons c cs ih => rw [List.flatMap_cons, ofUnits_unitsOf, ih]

theorem readText_quoted (s : String) (rest : List Char) :
    readText (s.toList.flatMap written ++ '"' :: rest) = .ok (s, rest) := by
  rw [readText, readUnits?_quoted]
  dsimp only
  rw [ofUnits_flatMap_unitsOf, String.ofList_toList]

theorem toList_quoted (s : String) (rest : List Char) :
    (quoted s).toList ++ rest = '"' :: (s.toList.flatMap written ++ '"' :: rest) := by
  simp [quoted]

theorem readValue_quoted (fuel levels : Nat) (s : String) (rest : List Char) :
    readValue (fuel + 1) levels ((quoted s).toList ++ rest) = .ok (.text s, rest) := by
  rw [toList_quoted, readValue]
  have hc : constants.find? (fun x => x.1.toList.isPrefixOf ('"' :: (s.toList.flatMap written ++ '"' :: rest))) =
      none := rfl
  rw [hc]
  dsimp only
  rw [readText_quoted]
  rfl

def line (field : String × String) : String :=
  "  " ++ quoted field.1 ++ ": " ++ quoted field.2

theorem toList_line (field : String × String) (rest : List Char) :
    (line field).toList ++ rest =
      ' ' :: ' ' :: ((quoted field.1).toList ++ ':' :: ' ' :: ((quoted field.2).toList ++ rest)) := by
  simp [line]

theorem dropSpaces_quoted (s : String) (rest : List Char) :
    dropSpaces ((quoted s).toList ++ rest) = (quoted s).toList ++ rest := by
  rw [toList_quoted]
  rfl

/-- After a line comes the end of the record or, behind a comma, the next line. -/
theorem readFields_line (fuel levels : Nat) (field : String × String) (rest : List Char) :
    readFields (fuel + 2) levels (dropSpaces ((line field).toList ++ rest)) =
      match dropSpaces rest with
      | '\x7d' :: rest => .ok ([(field.1, .text field.2)], rest)
      | ',' :: rest => do
        let (fields, rest) ← readFields (fuel + 1) levels (dropSpaces rest)
        return ((field.1, .text field.2) :: fields, rest)
      | _ => .error .malformed := by
  have hs : ∀ cs, dropSpaces (' ' :: cs) = dropSpaces cs := fun _ => rfl
  have hv : readValue (fuel + 1) levels (dropSpaces (' ' :: ((quoted field.2).toList ++ rest))) =
      .ok (.text field.2, rest) := by
    rw [hs, dropSpaces_quoted, readValue_quoted]
  have hcolon : ∀ cs, dropSpaces (':' :: cs) = ':' :: cs := fun _ => rfl
  rw [toList_line, hs, hs, dropSpaces_quoted, toList_quoted, readFields]
  simp only [readText_quoted, hcolon, hv, bind, Except.bind]
  rfl

/-- Fields on lines of their own, with commas between them, are read up to the closing brace. -/
theorem readFields_lines (first : String × String) (fields : List (String × String)) {fuel levels : Nat}
    (hf : fields.length + 2 ≤ fuel) (rest : List Char) :
    readFields fuel levels
        (dropSpaces ((Text.join ",\n" ((first :: fields).map line)).toList ++ '\n' :: '\x7d' :: rest)) =
      .ok ((first :: fields).map fun x => (x.1, .text x.2), rest) := by
  induction fields generalizing first fuel with
  | nil =>
    obtain ⟨fuel, rfl⟩ := Nat.exists_eq_add_of_le' hf
    exact readFields_line fuel levels first _
  | cons second fields ih =>
    obtain ⟨fuel, rfl⟩ := Nat.exists_eq_add_of_le' (Nat.le_trans (Nat.le_add_left 2 _) hf)
    have hj : (Text.join ",\n" ((first :: second :: fields).map line)).toList ++ '\n' :: '\x7d' :: rest =
        (line first).toList ++ ',' :: '\n' ::
          ((Text.join ",\n" ((second :: fields).map line)).toList ++ '\n' :: '\x7d' :: rest) := by
      simp [Text.join]
    have hn : ∀ cs, dropSpaces ('\n' :: cs) = dropSpaces cs := fun _ => rfl
    rw [hj, readFields_line]
    change (do
      let (fields, rest) ← readFields (fuel + 1) levels (dropSpaces ('\n' :: _))
      return ((first.1, Json.text first.2) :: fields, rest)) = _
    rw [hn, ih second (by simpa using hf)]
    rfl

theorem length_le_join (fields : List (String × String)) :
    fields.length ≤ (Text.join ",\n" (fields.map line)).toList.length := by
  induction fields with
  | nil => exact Nat.zero_le _
  | cons first fields ih =>
    cases fields with
    | nil => simp [Text.join, line]
    | cons second fields =>
      simp only [List.map_cons, List.length_cons, Text.join] at ih ⊢
      simp only [String.toList_append, List.length_append]
      have hl : 0 < (line first).toList.length := by simp [line]
      omega

theorem readValue_record (levels : Nat) {fuel : Nat} {cs next rest : List Char} {fields : List (String × Json)}
    (hc : dropSpaces cs = '"' :: next) (hf : readFields fuel levels (dropSpaces cs) = .ok (fields, rest)) :
    readValue (fuel + 1) (levels + 1) ('\x7b' :: cs) = .ok (.record (Table.ofList fields).entries, rest) := by
  have hw : constants.find? (fun x => x.1.toList.isPrefixOf ('\x7b' :: cs)) = none := rfl
  rw [hc] at hf
  rw [readValue, hw]
  dsimp only
  rw [hc]
  change (readFields fuel levels ('"' :: next)).map _ = _
  rw [hf]
  rfl

theorem exists_dropSpaces_lines (first : String × String) (fields : List (String × String)) (rest : List Char) :
    ∃ next, dropSpaces ('\n' :: ((Text.join ",\n" ((first :: fields).map line)).toList ++ rest)) = '"' :: next := by
  obtain ⟨behind, hb⟩ : ∃ behind,
      (Text.join ",\n" ((first :: fields).map line)).toList ++ rest = (line first).toList ++ behind := by
    cases fields with
    | nil => exact ⟨rest, rfl⟩
    | cons second fields =>
      refine ⟨(",\n" ++ Text.join ",\n" ((second :: fields).map line)).toList ++ rest, ?_⟩
      simp [Text.join]
  rw [hb, toList_line, toList_quoted]
  exact ⟨_, rfl⟩

theorem read_textLines {fields : List (String × String)} (h : (fields.map Prod.fst).Nodup) (room : Nat) :
    read room (textLines fields).toList = .ok (.record (fields.map fun x => (x.1, .text x.2))) := by
  cases fields with
  | nil => rfl
  | cons first fields =>
    let cs := (Text.join ",\n" ((first :: fields).map line)).toList ++ ['\n', '\x7d']
    have ht : (textLines (first :: fields)).toList = '\x7b' :: '\n' :: cs := by
      rw [textLines, if_neg (by simp)]
      change ("\x7b\n" ++ Text.join ",\n" ((first :: fields).map line) ++ "\n\x7d").toList = _
      simp [cs]
    have hl : fields.length + 2 ≤ cs.length + 2 := by
      have hl := length_le_join (first :: fields)
      simp only [cs, List.length_append, List.length_cons] at hl ⊢
      omega
    have hn : (((first :: fields).map fun x => (x.1, Json.text x.2)).map Prod.fst).Nodup := by
      rw [List.map_map]
      exact h
    obtain ⟨next, hquote⟩ := exists_dropSpaces_lines first fields ['\n', '\x7d']
    have hv := readValue_record room hquote (readFields_lines first fields hl [])
    rw [Table.entries_ofList hn] at hv
    rw [ht, read]
    change (readValue (cs.length + 3) (room + 1) ('\x7b' :: '\n' :: cs) >>= _) = _
    rw [hv]
    rfl

end Json
end ConfigLayers
