import ConfigLayers.Proofs.Text.Utf8
import ConfigLayers.Proofs.Xml.Reread

/-! A document that has been written is read as the same tree, from its characters and from its bytes. -/
namespace ConfigLayers
namespace Xml

def firstLine : String :=
  "<?xml version='1.0' encoding='UTF-8'?>"

theorem toList_lines (first second : String) :
    (first ++ "\n" ++ second ++ "\n").toList = first.toList ++ ('\n' :: (second.toList ++ ['\n'])) := by
  have hn : "\n".toList = ['\n'] := rfl
  simp only [String.toList_append, hn, List.append_assoc, List.cons_append, List.nil_append]

theorem Node.toList_document (n : Node) :
    n.document.toList = firstLine.toList ++ ('\n' :: ((n.written 0).toList ++ ['\n'])) := by
  have hf : "<?xml version='1.0' encoding='UTF-8'?>\n" = firstLine ++ "\n" := by decide +kernel
  have hd : n.document = firstLine ++ "\n" ++ n.written 0 ++ "\n" := congrArg (· ++ n.written 0 ++ "\n") hf
  exact (congrArg String.toList hd).trans (toList_lines firstLine (n.written 0))

namespace Scan

theorem reads_declaration (left : List Char) :
    Reads declaration (firstLine.toList ++ left) ⟨some "UTF-8", false⟩ left :=
  fun _ => rfl

theorem reads_miscellany {reach : Nat} (hr : 0 < reach) (blanks left : List Char)
    (hb : ∀ c ∈ blanks, isSpace c = true) (hl : ∀ c ∈ left.head?, isSpace c = false)
    (hc : "<!--".toList.isPrefixOf left = false) (hi : "<?".toList.isPrefixOf left = false) :
    Reads (miscellany reach) (blanks ++ left) () left := by
  obtain ⟨reach, rfl⟩ : ∃ k, reach = k + 1 := ⟨reach - 1, by omega⟩
  rw [miscellany]
  refine (reads_skipSpaces blanks hb hl).bind ((reads_accept_not hc).bind ((reads_accept_not hi).bind ?_))
  exact reads_pure _ _

theorem reads_document {s : Setting} {levels : Nat} {n : Node} (hp : n.Plain levels) (hl : levels ≤ maxDepth + 1)
    (hs : n.document.length ≤ s.reach) : ∃ m, n.Same m ∧ Reads (document s) n.document.toList m [] := by
  obtain ⟨c, cs, hw, hc⟩ := hp.head_written 0
  rw [← String.length_toList, Node.toList_document] at hs
  simp only [List.length_append, List.length_cons, String.length_toList] at hs
  have hr : 0 < s.reach := by omega
  have hf : (n.written 0).length ≤ 3 * s.reach := by omega
  obtain ⟨m, hm, he⟩ := rereads_of_plain false hp hr (by omega) (3 * s.reach) ['\n'] hf
  rw [hw, List.tail_cons] at he
  have hx : '!' ≠ c := by rintro rfl; exact absurd hc (by decide)
  have hq : '?' ≠ c := by rintro rfl; exact absurd hc (by decide)
  have hstart := reads_miscellany hr ['\n'] ('<' :: c :: cs ++ ['\n']) (by simp [isSpace])
    (by simp [isSpace]) (by simp [List.isPrefixOf, hx]) (by simp [List.isPrefixOf, hq])
  have hnone := reads_miscellany hr [] ('<' :: c :: cs ++ ['\n']) (by simp)
    (by simp [isSpace]) (by simp [List.isPrefixOf, hx]) (by simp [List.isPrefixOf, hq])
  have hend := reads_miscellany hr ['\n'] [] (by simp [isSpace]) (by simp) rfl rfl
  refine ⟨m, hm, ?_⟩
  rw [Node.toList_document, document, hw]
  refine (reads_declaration _).bind (hstart.bind ((reads_accept_not (by simp [List.isPrefixOf, hx])).bind ?_))
  refine Reads.bind (reads_pure _ _) (hnone.bind ((reads_expect rfl).bind (he.bind (hend.bind ?_))))
  exact (reads_atEnd _).bind ((reads_require rfl _).bind (reads_pure _ _))

end Scan

theorem parse?_document {levels : Nat} {n : Node} (hp : n.Plain levels) (hl : levels ≤ maxDepth + 1)
    (read : String → Entity) (reach : Nat) : ∃ m, n.Same m ∧ parse? read reach n.document.toList = some m := by
  have hs : n.document.length ≤ n.document.toList.length + reach + 1 := by
    rw [String.length_toList]
    omega
  obtain ⟨m, hm, hr⟩ := Scan.reads_document
    (s := ⟨read, n.document.toList.length + reach + 1, expansionLimit n.document.toList.length⟩) hp hl hs
  exact ⟨m, hm, hr.read?⟩

theorem normalizeLines_eq_self {cs : List Char} (h : '\r' ∉ cs) : normalizeLines cs = cs := by
  fun_induction normalizeLines cs with
  | case1 => rfl
  | case2 cs ih => simp at h
  | case3 cs _ ih => simp at h
  | case4 c cs _ _ ih => rw [ih fun hm => h (List.mem_cons_of_mem _ hm)]

namespace Node

theorem not_mem_writtenChar (c : Char) : '\r' ∉ writtenChar c := by
  unfold writtenChar
  split
  · decide
  · decide
  · decide
  · decide
  · rename_i h
    simp only [List.mem_singleton]
    exact fun e => h e.symm

theorem not_mem_indentation (depth : Nat) : '\r' ∉ (indentation depth).toList := by
  simp [indentation]

theorem not_mem_tag {tag : String} (h : Scan.IsTag tag) : '\r' ∉ tag.toList := by
  obtain ⟨c, cs, he, hc, hcs⟩ := h
  intro hm
  rw [he] at hm
  rcases List.mem_cons.mp hm with rfl | hm
  · exact absurd hc (by decide)
  · exact absurd (hcs _ hm) (by decide)

theorem not_mem_writtenLines {depth : Nat} {ns : List Node} (h : ∀ n ∈ ns, '\r' ∉ (n.written depth).toList) :
    '\r' ∉ (writtenLines depth ns).toList := by
  induction ns with
  | nil => simp [writtenLines]
  | cons n ns ih =>
    have hi := ih fun n' hm => h n' (List.mem_cons_of_mem _ hm)
    simp [writtenLines, not_mem_indentation, h n (by simp), hi]

theorem Plain.not_mem_written {levels : Nat} {n : Node} (h : n.Plain levels) (depth : Nat) :
    '\r' ∉ (n.written depth).toList := by
  induction h generalizing depth with
  | data ht hs =>
    rw [toList_written_data]
    simp [not_mem_tag ht, not_mem_writtenChar]
  | @lines levels tag ns ht hn ih =>
    cases ns with
    | nil =>
      rw [toList_written_empty]
      simp [not_mem_tag ht]
    | cons n ns =>
      rw [toList_written_lines depth tag (List.all_eq_true.mpr fun n' hm => (hn n' hm).isElement)]
      simp [not_mem_tag ht, not_mem_indentation, not_mem_writtenLines fun n' hm => ih n' hm (depth + 1)]

theorem Plain.not_mem_document {levels : Nat} {n : Node} (h : n.Plain levels) : '\r' ∉ n.document.toList := by
  have hf : '\r' ∉ firstLine.toList := by decide +kernel
  rw [toList_document]
  simp [hf, h.not_mem_written 0]

end Node

theorem characters?_firstLine (cs : List Char) :
    characters? false Scan.declaration (Utf8.encode (firstLine.toList ++ cs))
      = some (normalizeLines (firstLine.toList ++ cs)) := by
  have hb : Utf8.encode (firstLine.toList ++ cs) = Utf8.encode firstLine.toList ++ Utf8.encode cs :=
    List.flatMap_append
  have hd : detect (Utf8.encode (firstLine.toList ++ cs)) = (none, Utf8.encode (firstLine.toList ++ cs)) := by
    have hm : Utf8.encode firstLine.toList = 0x3c :: 0x3f :: (Utf8.encode firstLine.toList).drop 2 := by
      decide +kernel
    rw [hb, hm]
    rfl
  have hc : (Utf8.encode firstLine.toList).map (fun b => Char.ofNat b.toNat) = firstLine.toList := by decide +kernel
  have hr : Scan.declaration.read? ((Utf8.encode (firstLine.toList ++ cs)).map fun b => Char.ofNat b.toNat)
      = some ⟨some "UTF-8", false⟩ := by
    rw [hb, List.map_append, hc]
    exact (Scan.reads_declaration _).read?
  have he : Encoding.ofName? "UTF-8" = some .utf8 := by decide +kernel
  simp [characters?, hd, hr, he, Encoding.decode?, Utf8.decode?_encode]

theorem ofBytes?_document {levels : Nat} {n : Node} (hp : n.Plain levels) (hl : levels ≤ maxDepth + 1)
    (read : String → Entity) (reach : Nat) :
    ∃ m, n.Same m ∧ ofBytes? read reach false (Utf8.encode n.document.toList) = some m := by
  obtain ⟨m, hm, hr⟩ := parse?_document hp hl read reach
  have hc : characters? false Scan.declaration (Utf8.encode n.document.toList) = some n.document.toList := by
    have hn := normalizeLines_eq_self hp.not_mem_document
    rw [Node.toList_document] at hn ⊢
    rw [characters?_firstLine, hn]
  refine ⟨m, hm, ?_⟩
  rw [ofBytes?, hc]
  exact hr

end Xml
end ConfigLayers
