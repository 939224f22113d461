import ConfigLayers.Xml.Scan

/-! What the scanners of markup take from the start of a text. Each lemma is about one scanner at a text that
begins as it expects. -/
namespace ConfigLayers
namespace Xml
namespace Scan

variable {α β : Type}

def Reads (p : Scan α) (cs : List Char) (a : α) (left : List Char) : Prop :=
  ∀ spent, p ⟨cs, spent⟩ = some (a, ⟨left, spent⟩)

theorem reads_pure (a : α) (cs : List Char) : Reads (pure a) cs a cs := fun _ => rfl

theorem Reads.bind {p : Scan α} {f : α → Scan β} {cs mid left : List Char} {a : α} {b : β}
    (hp : Reads p cs a mid) (hf : Reads (f a) mid b left) : Reads (p >>= f) cs b left := by
  intro spent
  change (p ⟨cs, spent⟩ >>= fun x => f x.1 x.2) = _
  rw [hp spent]
  exact hf spent

theorem Reads.read? {p : Scan α} {cs left : List Char} {a : α} (h : Reads p cs a left) : p.read? cs = some a := by
  rw [Scan.read?]
  change (p ⟨cs, 0⟩).map Prod.fst = some a
  rw [h 0]
  rfl

theorem reads_rest (cs : List Char) : Reads rest cs cs cs := fun _ => rfl

theorem reads_goTo (cs left : List Char) : Reads (goTo left) cs () left := fun _ => rfl

theorem reads_require {condition : Bool} (h : condition = true) (cs : List Char) :
    Reads (require condition) cs () cs := by
  rw [require, h]
  exact reads_pure () cs

theorem reads_atEnd (cs : List Char) : Reads atEnd cs cs.isEmpty cs := fun _ => rfl

theorem reads_peek (cs : List Char) : Reads peek cs cs.head? cs := fun _ => rfl

theorem reads_looksAt (word : String) (cs : List Char) : Reads (looksAt word) cs (word.toList.isPrefixOf cs) cs :=
  fun _ => rfl

theorem reads_accept {word : String} {cs left : List Char} (h : cs = word.toList ++ left) :
    Reads (accept word) cs true left := by
  have hp : word.toList.isPrefixOf cs = true := by simp [h]
  have hd : cs.drop word.length = left := by simp [h, ← String.length_toList]
  refine (reads_rest cs).bind ?_
  rw [hp, hd]
  exact (reads_goTo cs left).bind (reads_pure true left)

theorem reads_accept_not {word : String} {cs : List Char} (h : word.toList.isPrefixOf cs = false) :
    Reads (accept word) cs false cs := by
  refine (reads_rest cs).bind ?_
  rw [h]
  exact reads_pure false cs

theorem reads_expect {word : String} {cs left : List Char} (h : cs = word.toList ++ left) :
    Reads (expect word) cs () left :=
  (reads_accept h).bind (reads_require rfl left)

theorem reads_takeWhile {p : Char → Bool} {cs taken left : List Char} (h : cs = taken ++ left)
    (ht : ∀ c ∈ taken, p c = true) (hl : ∀ c ∈ left.head?, p c = false) : Reads (takeWhile p) cs taken left := by
  have hw : cs.takeWhile p = taken := by
    rw [h, List.takeWhile_append_of_pos ht]
    cases left with
    | nil => simp
    | cons c left => simp [hl c rfl]
  have hd : cs.dropWhile p = left := by
    rw [h, List.dropWhile_append_of_pos ht]
    cases left with
    | nil => rfl
    | cons c left => simp [hl c rfl]
  refine (reads_rest cs).bind ?_
  rw [hw, hd]
  exact (reads_goTo cs left).bind (reads_pure taken left)

theorem reads_spaces (blanks : List Char) {left : List Char} (hb : ∀ c ∈ blanks, isSpace c = true)
    (hl : ∀ c ∈ left.head?, isSpace c = false) : Reads spaces (blanks ++ left) (!blanks.isEmpty) left :=
  (reads_takeWhile rfl hb hl).bind (reads_pure _ left)

theorem reads_skipSpaces (blanks : List Char) {left : List Char} (hb : ∀ c ∈ blanks, isSpace c = true)
    (hl : ∀ c ∈ left.head?, isSpace c = false) : Reads skipSpaces (blanks ++ left) () left :=
  (reads_spaces blanks hb hl).bind (reads_pure () left)

/-- A name that an element may have: no colon in it, and at its start a character that may start a name. -/
def IsTag (tag : String) : Prop :=
  ∃ c cs, tag.toList = c :: cs ∧ isNameStart c = true ∧ ∀ c' ∈ cs, isNameChar c' = true

theorem isTag_of_all {tag : String} {c : Char} {cs : List Char} (h : tag.toList = c :: cs)
    (hc : isNameStart c = true) (hcs : cs.all isNameChar = true) : IsTag tag :=
  ⟨c, cs, h, hc, List.all_eq_true.mp hcs⟩

theorem isNameChar_of_isNameStart {c : Char} (h : isNameStart c = true) : isNameChar c = true := by
  simp [isNameChar, h]

theorem reads_part {tag : String} (ht : IsTag tag) {left : List Char}
    (hl : ∀ c ∈ left.head?, isNameChar c = false) : Reads part (tag.toList ++ left) tag left := by
  obtain ⟨c, cs, he, hc, hcs⟩ := ht
  have hp : (tag.toList ++ left).head? = some c := by simp [he]
  have hn : ∀ c' ∈ tag.toList, isNameChar c' = true := by
    intro c' hm
    rw [he] at hm
    rcases List.mem_cons.mp hm with rfl | hm
    · exact isNameChar_of_isNameStart hc
    · exact hcs c' hm
  refine (reads_peek _).bind ?_
  rw [hp]
  refine (reads_require hc _).bind ((reads_takeWhile rfl hn hl).bind ?_)
  rw [String.ofList_toList]
  exact reads_pure tag left

theorem reads_qualified {tag : String} (ht : IsTag tag) {left : List Char}
    (hl : ∀ c ∈ left.head?, isNameChar c = false ∧ c ≠ ':') : Reads qualified (tag.toList ++ left) ⟨"", tag⟩ left := by
  have hc : ":".toList.isPrefixOf left = false := by
    cases left with
    | nil => rfl
    | cons c left =>
      have hn : ':' ≠ c := fun e => (hl c rfl).2 e.symm
      simp [List.isPrefixOf, hn]
  refine (reads_part ht fun c hm => (hl c hm).1).bind ((reads_accept_not hc).bind ?_)
  exact reads_pure _ left

end Scan
end Xml
end ConfigLayers
