import ConfigLayers.Proofs.Xml.Reading
import ConfigLayers.Xml.Parser
import ConfigLayers.Xml.Printer
import Mathlib.Data.List.Forall2

/-! Reading what has been written. Elements come back in order with their names and their character data;
between elements there are blanks. -/
namespace ConfigLayers
namespace Xml

namespace Node

/-- Elements in no namespace, without attributes, at most so many levels of them; each holds legal character
data or elements alone. -/
inductive Plain : Nat → Node → Prop where
  | data {levels : Nat} {tag s : String} (ht : Scan.IsTag tag) (hs : isLegal s = true) :
    Plain (levels + 1) (.element (Name.plain tag) [] [.text s])
  | lines {levels : Nat} {tag : String} {ns : List Node} (ht : Scan.IsTag tag) (hn : ∀ n ∈ ns, Plain levels n) :
    Plain (levels + 1) (.element (Name.plain tag) [] ns)

/-- The same elements with the same character data, but for text between elements. -/
inductive Same : Node → Node → Prop where
  | data {name : Name} {attributes : List (Name × String)} {s : String} {ms : List Node} (h : innerTexts ms = s) :
    Same (.element name attributes [.text s]) (.element name attributes ms)
  | empty {name : Name} {attributes : List (Name × String)} :
    Same (.element name attributes []) (.element name attributes [])
  | lines {name : Name} {attributes : List (Name × String)} {n : Node} {ns ms : List Node}
    (h : List.Forall₂ Same (n :: ns) (ms.filter isElement)) :
    Same (.element name attributes (n :: ns)) (.element name attributes ms)

theorem Same.elements {name : Name} {attributes : List (Name × String)} {ns : List Node} {m : Node}
    (h : Same (.element name attributes ns) m) (he : ns.all isElement = true) :
    ∃ ms, m = .element name attributes ms ∧ List.Forall₂ Same ns (ms.filter isElement) := by
  cases h with
  | data h => simp [isElement] at he
  | empty => exact ⟨[], rfl, .nil⟩
  | lines h => exact ⟨_, rfl, h⟩

theorem Plain.head_written {levels : Nat} {n : Node} (h : n.Plain levels) (depth : Nat) :
    ∃ c cs, (n.written depth).toList = '<' :: c :: cs ∧ isNameStart c = true := by
  cases h with
  | data ht hs =>
    obtain ⟨c, cs, he, hc, -⟩ := ht
    simp [written, Name.plain, he, hc, isElement]
  | lines ht hn =>
    obtain ⟨c, cs, he, hc, -⟩ := ht
    rw [written]
    split
    · simp [Name.plain, he, hc]
    · split <;> simp [Name.plain, he, hc]

theorem toList_written_data (depth : Nat) (tag text : String) :
    (written depth (.element (Name.plain tag) [] [.text text])).toList
      = '<' :: (tag.toList ++ (">".toList ++ (text.toList.flatMap writtenChar
        ++ ("</".toList ++ (tag.toList ++ ">".toList))))) := by
  simp [written, writtenInline, isElement, Name.plain, writtenText]

theorem toList_written_empty (depth : Nat) (tag : String) :
    (written depth (.element (Name.plain tag) [] [])).toList = '<' :: (tag.toList ++ "/>".toList) := by
  simp [written, Name.plain]

theorem toList_written_lines (depth : Nat) (tag : String) {n : Node} {ns : List Node}
    (h : (n :: ns).all isElement = true) :
    (written depth (.element (Name.plain tag) [] (n :: ns))).toList
      = '<' :: (tag.toList ++ (">".toList ++ ('\n' :: (writtenLines (depth + 1) (n :: ns)).toList
        ++ ((indentation depth).toList ++ ("</".toList ++ (tag.toList ++ ">".toList)))))) := by
  rw [written, h]
  simp [Name.plain]

theorem Plain.isElement {levels : Nat} {n : Node} (h : n.Plain levels) : n.isElement = true := by
  cases h <;> rfl

end Node

namespace Scan

theorem reads_attributes {left : List Char}
    (h : ">".toList.isPrefixOf left = true ∨ "/>".toList.isPrefixOf left = true) (fuel : Nat) :
    Reads (attributes (fuel + 1)) left [] left := by
  have hs : ∀ c ∈ left.head?, isSpace c = false := by
    cases left with
    | nil => simp
    | cons c left =>
      rcases h with h | h
      · have hc : '>' = c := by simpa [List.isPrefixOf] using h
        simp [← hc, isSpace]
      · have hc : '/' = c := by simp [List.isPrefixOf] at h; exact h.1
        simp [← hc, isSpace]
  rw [attributes]
  refine (reads_spaces [] (by simp) hs).bind ((reads_looksAt _ _).bind ((reads_looksAt _ _).bind ?_))
  rw [if_pos (by simpa using h)]
  exact reads_pure _ _

theorem reads_resolved (s : Setting) (standalone : Bool) (tag : String) (cs : List Char) :
    Reads (resolved s ⟨standalone, [], [], []⟩ Scope.initial ⟨"", tag⟩ []) cs (Name.plain tag, [], Scope.initial) cs :=
  fun _ => rfl

theorem cutAt_eq_none {mark : List Char} {c : Char} (hc : c ∈ mark) {cs : List Char} (hn : c ∉ cs) :
    cutAt mark cs = none := by
  induction cs with
  | nil =>
    have hm : mark.isEmpty = false := by cases mark <;> simp_all
    simp [cutAt, hm]
  | cons c' cs ih =>
    have hp : mark.isPrefixOf (c' :: cs) = false := by
      rw [Bool.eq_false_iff]
      intro h
      exact hn ((List.isPrefixOf_iff_prefix.mp h).subset hc)
    simp [cutAt, hp, ih fun h => hn (List.mem_cons_of_mem _ h)]

def isVerbatim (c : Char) : Bool :=
  c != '&' && c != '<' && c != '>' && c != '\r'

theorem writtenChar_of_isVerbatim {c : Char} (h : isVerbatim c = true) : writtenChar c = [c] := by
  unfold writtenChar
  split <;> first | rfl | simp [isVerbatim] at h

theorem eq_of_not_isVerbatim {c : Char} (h : isVerbatim c = false) : c = '&' ∨ c = '<' ∨ c = '>' ∨ c = '\r' := by
  simpa only [isVerbatim, Bool.and_eq_false_iff, bne_eq_false_iff_eq, or_assoc] using h

theorem writtenChar_of_not_isVerbatim {c : Char} (h : isVerbatim c = false) : ∃ cs, writtenChar c = '&' :: cs := by
  rcases eq_of_not_isVerbatim h with rfl | rfl | rfl | rfl <;> exact ⟨_, rfl⟩

theorem length_le_flatMap_writtenChar (cs : List Char) : cs.length ≤ (cs.flatMap writtenChar).length := by
  induction cs with
  | nil => exact Nat.le_refl 0
  | cons c cs ih =>
    have hc : 1 ≤ (writtenChar c).length := by
      unfold writtenChar
      split <;> simp
    simp only [List.flatMap_cons, List.length_append, List.length_cons]
    omega

theorem flatMap_writtenChar_of_isVerbatim {cs : List Char} (h : ∀ c ∈ cs, isVerbatim c = true) :
    cs.flatMap writtenChar = cs := by
  induction cs with
  | nil => rfl
  | cons c cs ih =>
    have hc : writtenChar c = [c] := writtenChar_of_isVerbatim (h c (by simp))
    simp [hc, ih fun c' hm => h c' (by simp [hm])]

theorem isVerbatim_line (depth : Nat) :
    ∀ c ∈ '\n' :: (indentation depth).toList, isVerbatim c = true ∧ isChar c = true := by
  intro c hc
  have hb : c = '\n' ∨ c = ' ' := by
    rcases List.mem_cons.mp hc with rfl | hc
    · exact .inl rfl
    · exact .inr (List.eq_of_mem_replicate (by simpa [indentation] using hc))
  rcases hb with rfl | rfl <;> decide

def chunk (cs : List Char) : List Node :=
  if cs.isEmpty then [] else [Node.text (String.ofList cs)]

theorem innerTexts_chunk_append (cs : List Char) (ns : List Node) :
    Node.innerTexts (chunk cs ++ ns) = String.ofList cs ++ Node.innerTexts ns := by
  cases cs with
  | nil => simp [chunk]
  | cons c cs => simp [chunk, Node.innerTexts, Node.innerText]

theorem filter_isElement_chunk (cs : List Char) : (chunk cs).filter Node.isElement = [] := by
  cases cs <;> simp [chunk, Node.isElement]

section

variable {s : Setting} {d : Declarations} {scope : Scope} {depth fuel : Nat} {inside : List String}
  {before cs mid left : List Char} {nodes others : List Node}

theorem reads_before (hb : ∀ c ∈ before, isVerbatim c = true ∧ isChar c = true)
    (hl : ∀ c ∈ left.head?, c = '<' ∨ c = '&') :
    Reads (takeWhile fun c => c != '<' && c != '&') (before ++ left) before left := by
  refine reads_takeWhile rfl ?_ ?_
  · intro c hc
    have hv := (hb c hc).1
    simp only [isVerbatim, Bool.and_eq_true] at hv
    simp [hv]
  · intro c hc
    rcases hl c hc with rfl | rfl <;> rfl

theorem holds_before (hb : ∀ c ∈ before, isVerbatim c = true ∧ isChar c = true) :
    (before.all isChar && (cutAt "]]>".toList before).isNone) = true := by
  have hn : '>' ∉ before := fun h => by simpa [isVerbatim] using (hb '>' h).1
  have hc : before.all isChar = true := List.all_eq_true.mpr fun c h => (hb c h).2
  have hm : cutAt "]]>".toList before = none := cutAt_eq_none (by decide : '>' ∈ "]]>".toList) hn
  rw [hc, hm]
  rfl

theorem reads_content_last (before : List Char) (hb : ∀ c ∈ before, isVerbatim c = true ∧ isChar c = true) :
    Reads (content s d (fuel + 1) scope depth inside) (before ++ ("</".toList ++ left)) (chunk before)
      ("</".toList ++ left) := by
  rw [content]
  refine (reads_before hb (by simp)).bind ((reads_require (holds_before hb) _).bind ?_)
  exact (reads_atEnd _).bind ((reads_looksAt _ _).bind (reads_pure _ _))

/-- Content goes on behind an element or a reference. -/
theorem reads_content_next (hb : ∀ c ∈ before, isVerbatim c = true ∧ isChar c = true)
    (hl : ∀ c ∈ cs.head?, c = '<' ∨ c = '&') (hn : cs ≠ []) (he : "</".toList.isPrefixOf cs = false)
    (hi : Reads (item s d fuel scope depth inside) cs nodes mid)
    (hc : Reads (content s d fuel scope depth inside) mid others left) :
    Reads (content s d (fuel + 1) scope depth inside) (before ++ cs) (chunk before ++ nodes ++ others) left := by
  rw [content]
  refine (reads_before hb hl).bind ((reads_require (holds_before hb) _).bind ?_)
  refine (reads_atEnd _).bind ((reads_looksAt _ _).bind ?_)
  have hne : cs.isEmpty = false := by simpa using hn
  rw [he, hne]
  exact hi.bind (hc.bind (reads_pure _ _))

theorem reads_item_writtenChar {c : Char} (h : isVerbatim c = false) :
    Reads (item s d (fuel + 1) scope depth inside) (writtenChar c ++ left) [.text (String.singleton c)] left := by
  rcases eq_of_not_isVerbatim h with rfl | rfl | rfl | rfl
  · exact fun _ => rfl
  · exact fun _ => rfl
  · exact fun _ => rfl
  · exact fun _ => rfl

/-- Written character data is read as pieces that make up the same data. -/
theorem reads_content_text (s : Setting) (d : Declarations) (scope : Scope) (depth : Nat) (inside : List String)
    (left : List Char) {fuel : Nat} {cs : List Char} (hf : cs.length < fuel) (hc : cs.all isChar = true) :
    ∃ ms, Reads (content s d fuel scope depth inside) (cs.flatMap writtenChar ++ ("</".toList ++ left)) ms
        ("</".toList ++ left)
      ∧ Node.innerTexts ms = String.ofList cs := by
  -- on the fuel: the text up to the first reference is one piece, and what is behind the reference is shorter
  induction fuel generalizing cs with
  | zero => omega
  | succ fuel ih =>
    have hb : ∀ c ∈ cs.takeWhile isVerbatim, isVerbatim c = true ∧ isChar c = true := by
      intro c h
      have ha := List.all_takeWhile (p := isVerbatim) (l := cs)
      exact ⟨List.all_eq_true.mp ha c h, List.all_eq_true.mp hc c ((List.takeWhile_prefix _).subset h)⟩
    have hw : (cs.takeWhile isVerbatim).flatMap writtenChar = cs.takeWhile isVerbatim :=
      flatMap_writtenChar_of_isVerbatim fun c h => (hb c h).1
    rw [← List.takeWhile_append_dropWhile (p := isVerbatim) (l := cs), List.flatMap_append, hw, List.append_assoc]
    cases he : cs.dropWhile isVerbatim with
    | nil =>
      refine ⟨_, reads_content_last _ hb, ?_⟩
      simpa [Node.innerTexts] using innerTexts_chunk_append (cs.takeWhile isVerbatim) []
    | cons c rest =>
      have hv : isVerbatim c = false := by
        have := List.head?_dropWhile_not (p := isVerbatim) (l := cs)
        simpa [he] using this
      have hm : ∀ c' ∈ c :: rest, c' ∈ cs := fun c' h => (List.dropWhile_suffix isVerbatim).subset (he ▸ h)
      have hn : (c :: rest).length ≤ cs.length := he ▸ (List.dropWhile_suffix isVerbatim).length_le
      have hr' : rest.all isChar = true :=
        List.all_eq_true.mpr fun c' h => List.all_eq_true.mp hc c' (hm c' (by simp [h]))
      obtain ⟨ms, hr, ht⟩ := ih (by simp at hn; omega) hr'
      obtain ⟨fuel, rfl⟩ : ∃ n, fuel = n + 1 := ⟨fuel - 1, by simp at hn; omega⟩
      rw [List.flatMap_cons, List.append_assoc]
      obtain ⟨behind, hs⟩ := writtenChar_of_not_isVerbatim hv
      refine ⟨_, reads_content_next hb ?_ ?_ ?_ (reads_item_writtenChar hv) hr, ?_⟩
      · simp [hs]
      · simp [hs]
      · simp [hs, List.isPrefixOf]
      · rw [List.append_assoc, innerTexts_chunk_append]
        simp [Node.innerTexts, Node.innerText, ht]

end

section

variable {s : Setting} {d : Declarations} {scope : Scope} {depth fuel : Nat} {inside : List String}
  {tag : String} {cs left : List Char} {m : Node} {ms : List Node}

theorem reads_item_element {c : Char} (hc : isNameStart c = true)
    (h : Reads (element s d fuel scope depth inside) (c :: cs) m left) :
    Reads (item s d (fuel + 1) scope depth inside) ('<' :: c :: cs) [m] left := by
  have hm : '!' ≠ c := by rintro rfl; exact absurd hc (by decide)
  have hq : '?' ≠ c := by rintro rfl; exact absurd hc (by decide)
  rw [item]
  refine (reads_accept_not (by simp [List.isPrefixOf, hm])).bind ?_
  refine (reads_accept_not (by simp [List.isPrefixOf, hm])).bind ?_
  refine (reads_accept_not (by simp [List.isPrefixOf, hq])).bind ?_
  exact (reads_accept (by rfl)).bind (h.bind (reads_pure _ _))

theorem reads_element_closed (fuel : Nat) (inside : List String) (left : List Char) (ht : IsTag tag)
    (hs : 0 < s.reach) (hd : depth ≤ maxDepth) {standalone : Bool} :
    Reads (element s ⟨standalone, [], [], []⟩ (fuel + 1) Scope.initial depth inside)
      (tag.toList ++ ("/>".toList ++ left)) (.element (Name.plain tag) [] []) left := by
  obtain ⟨reach, hr⟩ : ∃ n, s.reach = n + 1 := ⟨s.reach - 1, by omega⟩
  rw [element, hr]
  refine (reads_require (by simpa using hd) _).bind ((reads_qualified ht (by simp; decide)).bind ?_)
  refine (reads_attributes (.inr (by simp [List.isPrefixOf])) reach).bind ((reads_resolved s standalone tag _).bind ?_)
  exact (reads_accept rfl).bind (reads_pure _ _)

theorem reads_element_open (ht : IsTag tag) (hs : 0 < s.reach) (hd : depth ≤ maxDepth) {standalone : Bool}
    (hc : Reads (content s ⟨standalone, [], [], []⟩ fuel Scope.initial (depth + 1) inside) cs ms
      ("</".toList ++ (tag.toList ++ (">".toList ++ left)))) :
    Reads (element s ⟨standalone, [], [], []⟩ (fuel + 1) Scope.initial depth inside)
      (tag.toList ++ (">".toList ++ cs)) (.element (Name.plain tag) [] ms) left := by
  obtain ⟨reach, hr⟩ : ∃ n, s.reach = n + 1 := ⟨s.reach - 1, by omega⟩
  rw [element, hr]
  refine (reads_require (by simpa using hd) _).bind ((reads_qualified ht (by simp; decide)).bind ?_)
  refine (reads_attributes (.inl (by simp [List.isPrefixOf])) reach).bind ((reads_resolved s standalone tag _).bind ?_)
  refine (reads_accept_not (by simp [List.isPrefixOf])).bind ((reads_expect rfl).bind (hc.bind ?_))
  refine (reads_expect rfl).bind ((reads_qualified ht (by simp; decide)).bind ?_)
  refine (reads_require (by simp) _).bind ((reads_skipSpaces [] (by simp) (by simp; decide)).bind ?_)
  exact (reads_expect rfl).bind (reads_pure _ _)

def Rereads (s : Setting) (d : Declarations) (depth : Nat) (n : Node) : Prop :=
  ∀ fuel left, (n.written depth).length ≤ fuel → ∃ m, n.Same m
    ∧ Reads (element s d fuel Scope.initial depth []) ((n.written depth).toList.tail ++ left) m left

theorem reads_content_lines (left : List Char) {levels : Nat} {ns : List Node} (hp : ∀ n ∈ ns, n.Plain levels)
    (hn : ∀ n ∈ ns, Rereads s d depth n) (indent : Nat) {fuel : Nat}
    (hf : (Node.writtenLines depth ns).length < fuel) :
    ∃ ms, List.Forall₂ Node.Same ns (ms.filter Node.isElement)
      ∧ Reads (content s d fuel Scope.initial depth [])
          ('\n' :: (Node.writtenLines depth ns).toList ++ ((indentation indent).toList ++ ("</".toList ++ left))) ms
          ("</".toList ++ left) := by
  induction ns generalizing fuel with
  | nil =>
    obtain ⟨fuel, rfl⟩ : ∃ k, fuel = k + 1 := ⟨fuel - 1, by omega⟩
    refine ⟨chunk ('\n' :: (indentation indent).toList), ?_, ?_⟩
    · rw [filter_isElement_chunk]
      exact .nil
    · exact reads_content_last ('\n' :: (indentation indent).toList) (isVerbatim_line indent)
  | cons n ns ih =>
    have hl : (n.written depth).length + 1 + (Node.writtenLines depth ns).length < fuel := by
      simp only [Node.writtenLines, String.length_append] at hf
      have : "\n".length = 1 := rfl
      omega
    obtain ⟨fuel, rfl⟩ : ∃ k, fuel = k + 2 := ⟨fuel - 2, by omega⟩
    obtain ⟨c, cs, hw, hc⟩ := (hp n (by simp)).head_written depth
    have hlen : (Node.writtenLines depth ns).length < fuel + 1 := by omega
    obtain ⟨ms, hs, hr⟩ := ih (fun n' h => hp n' (by simp [h])) (fun n' h => hn n' (by simp [h])) hlen
    obtain ⟨m, hm, he⟩ := hn n (by simp) fuel
      ('\n' :: (Node.writtenLines depth ns).toList ++ ((indentation indent).toList ++ ("</".toList ++ left)))
      (by omega)
    rw [hw, List.tail_cons, List.cons_append] at he
    have hi := reads_item_element hc he
    have hm' : m.isElement = true := by cases hm <;> rfl
    have hslash : '/' ≠ c := by rintro rfl; exact absurd hc (by decide)
    refine ⟨chunk ('\n' :: (indentation depth).toList) ++ [m] ++ ms, ?_, ?_⟩
    · rw [List.filter_append, List.filter_append, filter_isElement_chunk]
      simpa [hm'] using And.intro hm hs
    · have hl : ∀ cs, "</".toList.isPrefixOf ('<' :: c :: cs) = false := by simp [List.isPrefixOf, hslash]
      have hnext := reads_content_next (isVerbatim_line depth) (by simp) (by simp) (hl _) hi hr
      simpa [Node.writtenLines, hw] using hnext

theorem rereads_data {text : String} (ht : IsTag tag) (hl : isLegal text = true) (hs : 0 < s.reach)
    {standalone : Bool} (hd : depth ≤ maxDepth) :
    Rereads s ⟨standalone, [], [], []⟩ depth (.element (Name.plain tag) [] [.text text]) := by
  intro fuel left hf
  have hw := Node.toList_written_data depth tag text
  have hc : text.toList.length ≤ (text.toList.flatMap writtenChar).length := length_le_flatMap_writtenChar _
  have hm : "</".toList.length = 2 := rfl
  rw [← String.length_toList, hw] at hf
  simp only [List.length_cons, List.length_append] at hf
  obtain ⟨fuel, rfl⟩ : ∃ k, fuel = k + 1 := ⟨fuel - 1, by omega⟩
  have hlen : text.toList.length < fuel := by omega
  obtain ⟨ms, hr, ht'⟩ := reads_content_text s ⟨standalone, [], [], []⟩ Scope.initial (depth + 1) []
    (tag.toList ++ (">".toList ++ left)) hlen hl
  refine ⟨_, .data (ht'.trans String.ofList_toList), ?_⟩
  simpa [hw] using reads_element_open ht hs hd hr

theorem rereads_empty (ht : IsTag tag) (hs : 0 < s.reach) {standalone : Bool} (hd : depth ≤ maxDepth) :
    Rereads s ⟨standalone, [], [], []⟩ depth (.element (Name.plain tag) [] []) := by
  intro fuel left hf
  have hw := Node.toList_written_empty depth tag
  rw [← String.length_toList, hw] at hf
  simp only [List.length_cons] at hf
  obtain ⟨fuel, rfl⟩ : ∃ k, fuel = k + 1 := ⟨fuel - 1, by omega⟩
  refine ⟨_, .empty, ?_⟩
  simpa [hw] using reads_element_closed fuel [] left ht hs hd

theorem rereads_lines {levels : Nat} {n : Node} {ns : List Node} (ht : IsTag tag) (hs : 0 < s.reach)
    {standalone : Bool} (hd : depth ≤ maxDepth) (hp : ∀ n' ∈ n :: ns, n'.Plain levels)
    (hn : ∀ n' ∈ n :: ns, Rereads s ⟨standalone, [], [], []⟩ (depth + 1) n') :
    Rereads s ⟨standalone, [], [], []⟩ depth (.element (Name.plain tag) [] (n :: ns)) := by
  intro fuel left hf
  have ha : (n :: ns).all Node.isElement = true := List.all_eq_true.mpr fun n' hm => (hp n' hm).isElement
  have hw := Node.toList_written_lines depth tag ha
  rw [← String.length_toList, hw] at hf
  simp only [List.length_cons, List.length_append, String.length_toList] at hf
  obtain ⟨fuel, rfl⟩ : ∃ k, fuel = k + 1 := ⟨fuel - 1, by omega⟩
  have hlen : (Node.writtenLines (depth + 1) (n :: ns)).length < fuel := by omega
  obtain ⟨ms, hsame, hr⟩ := reads_content_lines (tag.toList ++ (">".toList ++ left)) hp hn depth hlen
  refine ⟨_, .lines hsame, ?_⟩
  simpa [hw] using reads_element_open ht hs hd hr

theorem rereads_of_plain (standalone : Bool) {levels : Nat} {n : Node} (h : n.Plain levels) (hs : 0 < s.reach)
    (hd : depth + levels ≤ maxDepth + 1) : Rereads s ⟨standalone, [], [], []⟩ depth n := by
  induction h generalizing depth with
  | data ht hl => exact rereads_data ht hl hs (by omega)
  | @lines levels tag ns ht hn ih =>
    have hd' : depth ≤ maxDepth := by omega
    cases ns with
    | nil => exact rereads_empty ht hs hd'
    | cons n ns => exact rereads_lines ht hs hd' hn fun n' hm => ih n' hm (by omega)

end

end Scan
end Xml
end ConfigLayers
