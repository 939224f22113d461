import ConfigLayers.Proofs.Text.Blank

/-! The pieces of a text between the occurrences of a separator. They are the only texts without the separator that
make up the text when the separator is put between them. -/
namespace ConfigLayers
namespace Text

theorem splitChars_eq_splitOn (sep : Char) (cs : List Char) : splitChars sep cs = cs.splitOn sep := by
  induction cs with
  | nil => rfl
  | cons c cs ih =>
    rw [splitChars, List.splitOn_cons_eq_if_modifyHead, ih]
    by_cases hc : c = sep
    · simp [hc]
    · have hne := List.splitOn_ne_nil sep cs
      cases hs : cs.splitOn sep with
      | nil => exact absurd hs hne
      | cons piece pieces => simp [hc]

theorem mem_splitChars (sep : Char) {cs : List Char} {c : Char} (h : c ∈ cs) :
    c = sep ∨ ∃ piece ∈ splitChars sep cs, c ∈ piece := by
  induction cs with
  | nil => cases h
  | cons d ds ih =>
    rw [splitChars]
    split
    · rename_i hd
      rcases List.mem_cons.mp h with rfl | h
      · exact .inl hd
      · refine (ih h).imp_right ?_
        rintro ⟨piece, hpiece, hc⟩
        exact ⟨piece, List.mem_cons_of_mem _ hpiece, hc⟩
    · cases hs : splitChars sep ds with
      | nil =>
        rcases List.mem_cons.mp h with rfl | h
        · exact .inr ⟨_, List.mem_cons_self, List.mem_cons_self⟩
        · refine (ih h).imp_right ?_
          rintro ⟨piece, hpiece, -⟩
          rw [hs] at hpiece
          cases hpiece
      | cons first pieces =>
        rw [hs] at ih
        rcases List.mem_cons.mp h with rfl | h
        · exact .inr ⟨_, List.mem_cons_self, List.mem_cons_self⟩
        · refine (ih h).imp_right ?_
          rintro ⟨piece, hpiece, hc⟩
          rcases List.mem_cons.mp hpiece with rfl | hpiece
          · exact ⟨_, List.mem_cons_self, List.mem_cons_of_mem d hc⟩
          · exact ⟨piece, List.mem_cons_of_mem _ hpiece, hc⟩

theorem notMem_of_mem_splitOn {sep : Char} {cs piece : List Char} (h : piece ∈ cs.splitOn sep) : sep ∉ piece := by
  induction cs generalizing piece with
  | nil =>
    rw [List.splitOn_nil, List.mem_singleton] at h
    exact h ▸ List.not_mem_nil
  | cons c cs ih =>
    rw [List.splitOn_cons_eq_if_modifyHead] at h
    by_cases hc : c = sep
    · rcases List.mem_cons.mp (by simpa [hc] using h) with rfl | h
      · exact List.not_mem_nil
      · exact ih h
    · cases hs : cs.splitOn sep with
      | nil => exact absurd hs (List.splitOn_ne_nil sep cs)
      | cons first pieces =>
        rw [hs] at h ih
        rcases List.mem_cons.mp (by simpa [hc] using h) with rfl | h
        · simpa [Ne.symm hc] using ih List.mem_cons_self
        · exact ih (List.mem_cons_of_mem first h)

theorem splitOn_eq_iff {sep : Char} {cs : List Char} {pieces : List (List Char)} :
    cs.splitOn sep = pieces ↔
      pieces ≠ [] ∧ (∀ piece ∈ pieces, sep ∉ piece) ∧ [sep].intercalate pieces = cs := by
  constructor
  · rintro rfl
    exact ⟨List.splitOn_ne_nil sep cs, fun _ => notMem_of_mem_splitOn, List.intercalate_splitOn sep⟩
  · rintro ⟨hne, hpieces, rfl⟩
    exact List.splitOn_intercalate sep hpieces hne

theorem splitOn_eq_pair_iff {sep : Char} {cs before after : List Char} :
    cs.splitOn sep = [before, after] ↔ cs = before ++ sep :: after ∧ sep ∉ before ∧ sep ∉ after := by
  rw [splitOn_eq_iff]
  constructor
  · rintro ⟨-, hpieces, rfl⟩
    exact ⟨by simp [List.intercalate], hpieces before (by simp), hpieces after (by simp)⟩
  · rintro ⟨rfl, hb, ha⟩
    exact ⟨by simp, by simp [hb, ha], by simp [List.intercalate]⟩

theorem splitOn_eq_singleton_iff {sep : Char} {cs piece : List Char} :
    cs.splitOn sep = [piece] ↔ cs = piece ∧ sep ∉ cs := by
  rw [splitOn_eq_iff]
  constructor
  · rintro ⟨-, hpieces, rfl⟩
    simpa [List.intercalate] using hpieces
  · rintro ⟨rfl, hcs⟩
    simpa [List.intercalate] using hcs

theorem toList_join (sep : String) (texts : List String) :
    (join sep texts).toList = sep.toList.intercalate (texts.map String.toList) := by
  induction texts with
  | nil => rfl
  | cons s rest ih =>
    cases rest with
    | nil => simp [join, List.intercalate]
    | cons t rest =>
      have hj : join sep (s :: t :: rest) = s ++ sep ++ join sep (t :: rest) := rfl
      rw [hj, String.toList_append, String.toList_append, ih]
      simp only [List.map_cons, List.intercalate_cons_cons, List.append_assoc]

end Text
end ConfigLayers
