import ConfigLayers.Proofs.Substitution.FixedPoint
import Mathlib.Data.List.Chain
import Mathlib.Logic.Relation

/-! How deep references may be nested. A chain of references that is longer than the limit cannot be replaced,
whatever stands beside it. Where texts hold references and no stray signs of them, nothing else fails, and the
result is the text with every reference replaced that stands for something. -/
namespace ConfigLayers
namespace Substitution

variable {lookup : String → Option String} {inner : List Char → Expansion (List Char)}

/-- A reference with the name is written in a text, and the name stands for a text of its own. -/
def RefersTo (lookup : String → Option String) (text : List Char) (x : String) : Prop :=
  IsName x.toList ∧ written x.toList <:+: text ∧ (lookup x).isSome

/-- The text that the first name stands for refers to the second one. -/
def Leads (lookup : String → Option String) (x y : String) : Prop :=
  ∃ raw, lookup x = some raw ∧ RefersTo lookup raw.toList y

theorem refersTo_iff {text : List Char} {x : String} :
    RefersTo lookup text x ↔ .reference x.toList ∈ pieces text ∧ (lookup x).isSome := by
  rw [RefersTo, mem_pieces_iff, and_assoc]

theorem refersTo_ofList {text name : List Char} (h : .reference name ∈ pieces text)
    (hn : (lookup (String.ofList name)).isSome) : RefersTo lookup text (String.ofList name) := by
  rw [refersTo_iff, String.toList_ofList]
  exact ⟨h, hn⟩

/-! Too long chains. -/

theorem inner_of_replace {ps : List Piece} {result : List Char × Bool}
    (h : (replace lookup inner ps).value = .ok result) {name : List Char} {raw : String}
    (hm : .reference name ∈ ps) (hr : lookup (String.ofList name) = some raw) :
    ∃ text, (inner raw.toList).value = .ok text := by
  induction ps generalizing result with
  | nil => cases hm
  | cons p ps ih =>
    obtain ⟨rest, among, hps, hp⟩ := replace_cons h
    rcases List.mem_cons.mp hm with rfl | hm
    · rcases hp with ⟨-, -, hn⟩ | ⟨name', raw', text, he, hr', ht, -, -⟩
      · rw [hn name rfl] at hr
        cases hr
      · cases he
        rw [hr] at hr'
        cases hr'
        exact ⟨text, ht⟩
    · exact ih hps hm

theorem length_lt_of_expand {levels : Nat} {text result : List Char}
    (h : (expand lookup levels text).value = .ok result) {x : String} {xs : List String}
    (hx : RefersTo lookup text x) (hc : List.IsChain (Leads lookup) (x :: xs)) : (x :: xs).length < levels := by
  induction levels generalizing text result x xs with
  | zero => cases h
  | succ levels ih =>
    rw [expand_succ] at h
    obtain ⟨_, hr, -⟩ := Traced.value_bind_eq_ok_iff.mp h
    obtain ⟨hm, hs⟩ := refersTo_iff.mp hx
    obtain ⟨raw, hraw⟩ := Option.isSome_iff_exists.mp hs
    have hname : lookup (String.ofList x.toList) = some raw := by rw [String.ofList_toList, hraw]
    obtain ⟨inside, hi⟩ := inner_of_replace hr hm hname
    cases xs with
    | nil =>
      cases levels with
      | zero => cases hi
      | succ levels => simp
    | cons y ys =>
      obtain ⟨⟨raw', hraw', hy⟩, hc⟩ := List.isChain_cons_cons.mp hc
      rw [hraw] at hraw'
      cases hraw'
      have hl := ih hi hy hc
      simp only [List.length_cons] at hl ⊢
      omega

theorem exists_chain_of_endless {p : String → Prop} (hp : ∀ x, p x → ∃ y, Leads lookup x y ∧ p y) (n : Nat) {x : String}
    (hx : p x) : ∃ xs, xs.length = n ∧ List.IsChain (Leads lookup) (x :: xs) := by
  induction n generalizing x with
  | zero => exact ⟨[], rfl, .singleton x⟩
  | succ n ih =>
    obtain ⟨y, hy, hpy⟩ := hp x hx
    obtain ⟨ys, hl, hc⟩ := ih hpy
    exact ⟨y :: ys, by simp [hl], List.isChain_cons_cons.mpr ⟨hy, hc⟩⟩

def MeetsCycle (lookup : String → Option String) (x : String) : Prop :=
  ∃ y, Relation.ReflTransGen (Leads lookup) x y ∧ Relation.TransGen (Leads lookup) y y

theorem MeetsCycle.next {x : String} (h : MeetsCycle lookup x) : ∃ y, Leads lookup x y ∧ MeetsCycle lookup y := by
  obtain ⟨z, hxz, hz⟩ := h
  rcases Relation.ReflTransGen.cases_head hxz with rfl | ⟨y, hxy, hyz⟩
  · obtain ⟨y, hy, hyx⟩ := Relation.TransGen.head'_iff.mp hz
    exact ⟨y, hy, x, hyx, hz⟩
  · exact ⟨y, hxy, z, hyz, hz⟩

theorem substitute_tooDeep {value : String} {limit : Int}
    (h : ∀ result, (expand lookup (limit + 1).toNat value.toList).value ≠ .ok result) (name : Option String) :
    (substitute (some value) lookup name limit).value = .error (.substitutionTooDeep (name.getD value) limit) :=
  substitute_eq_error_iff.mpr ⟨value, rfl, rfl, h⟩

/-! Full expansion. -/

def Piece.IsPlain : Piece → Prop
  | char c => c ≠ '$' ∧ c ≠ '\x7b' ∧ c ≠ '\x7d'
  | reference name => IsName name

/-- A text of references and characters that have no part in references. -/
def IsWellFormed (text : List Char) : Prop :=
  ∃ ps, (∀ p ∈ ps, Piece.IsPlain p) ∧ text = textOf ps

/-- The text of pieces with every reference replaced, as deep as there are any, that stands for something. -/
inductive Expands (lookup : String → Option String) : List Piece → List Char → Prop
  | nil : Expands lookup [] []
  | char {c ps text} (hs : Expands lookup ps text) : Expands lookup (.char c :: ps) (c :: text)
  | kept {name ps text} (hn : lookup (String.ofList name) = none) (hs : Expands lookup ps text) :
      Expands lookup (.reference name :: ps) (written name ++ text)
  | replaced {name raw ps inside text} (hn : lookup (String.ofList name) = some raw)
      (hi : Expands lookup (pieces raw.toList) inside) (hs : Expands lookup ps text) :
      Expands lookup (.reference name :: ps) (inside ++ text)

theorem Expands.unique {ps : List Piece} {text other : List Char} (h : Expands lookup ps text)
    (h' : Expands lookup ps other) : text = other := by
  induction h generalizing other with
  | nil =>
    cases h'
    rfl
  | char hs ih =>
    cases h' with
    | char hs' => rw [ih hs']
  | kept hn hs ih =>
    cases h' with
    | kept _ hs' => rw [ih hs']
    | replaced hn' _ _ => simp [hn] at hn'
  | replaced hn hi hs ihi ih =>
    cases h' with
    | kept hn' _ => simp [hn] at hn'
    | replaced hn' hi' hs' =>
      rw [hn] at hn'
      cases hn'
      rw [ihi hi', ih hs']

theorem pieces_cons_of_ne {c : Char} (h : c ≠ '$') (cs : List Char) : pieces (c :: cs) = .char c :: pieces cs := by
  rw [pieces]
  exact fun _ hc _ => h hc

theorem pieces_textOf {ps : List Piece} (h : ∀ p ∈ ps, p.IsPlain) : pieces (textOf ps) = ps := by
  induction ps with
  | nil => simp [pieces]
  | cons p ps ih =>
    have hps := ih fun q hq => h q (List.mem_cons_of_mem _ hq)
    have hp := h p List.mem_cons_self
    cases p with
    | char c => rw [textOf_char, pieces_cons_of_ne hp.1, hps]
    | reference name => rw [textOf_reference, pieces_written hp, hps]

def Settled (lookup : String → Option String) (ps : List Piece) : Prop :=
  ∀ p ∈ ps, p.IsPlain ∧ ∀ name, p = .reference name → lookup (String.ofList name) = none

theorem Settled.isExpanded {ps : List Piece} (h : Settled lookup ps) : IsExpanded lookup (textOf ps) := by
  rw [isExpanded_iff, pieces_textOf fun p hp => (h p hp).1]
  exact fun name hm => (h _ hm).2 name rfl

theorem Settled.append {ps qs : List Piece} (hp : Settled lookup ps) (hq : Settled lookup qs) :
    Settled lookup (ps ++ qs) :=
  fun p hm => (List.mem_append.mp hm).elim (hp p) (hq p)

theorem Settled.cons {p : Piece} {ps : List Piece} (hp : p.IsPlain)
    (hn : ∀ name, p = .reference name → lookup (String.ofList name) = none) (hs : Settled lookup ps) :
    Settled lookup (p :: ps) := by
  have hsingle : Settled lookup [p] := fun _ hq => List.mem_singleton.mp hq ▸ ⟨hp, hn⟩
  exact hsingle.append hs

theorem textOf_append (ps qs : List Piece) : textOf (ps ++ qs) = textOf ps ++ textOf qs :=
  List.flatMap_append

/-- The inner texts are full expansions, of which nothing is left to replace. -/
def ExpandsInside (lookup : String → Option String) (inner : List Char → Expansion (List Char)) (ps : List Piece) :
    Prop :=
  ∀ name raw, .reference name ∈ ps → lookup (String.ofList name) = some raw →
    ∃ qs, Settled lookup qs ∧ (inner raw.toList).value = .ok (textOf qs) ∧
      Expands lookup (pieces raw.toList) (textOf qs)

theorem replace_of_plain {ps : List Piece} (hp : ∀ p ∈ ps, p.IsPlain) (hi : ExpandsInside lookup inner ps) :
    ∃ qs replaced, Settled lookup qs ∧ (replace lookup inner ps).value = .ok (textOf qs, replaced) ∧
      Expands lookup ps (textOf qs) ∧
      (replaced = true → ∃ name, .reference name ∈ ps ∧ (lookup (String.ofList name)).isSome) := by
  induction ps with
  | nil => exact ⟨[], false, by simp [Settled], rfl, .nil, by simp⟩
  | cons p ps ih =>
    obtain ⟨qs, replaced, hs, hr, he, hf⟩ := ih (fun q hq => hp q (List.mem_cons_of_mem _ hq))
      fun name raw hm hn => hi name raw (List.mem_cons_of_mem _ hm) hn
    have hf' : replaced = true → ∃ name, .reference name ∈ p :: ps ∧ (lookup (String.ofList name)).isSome := by
      intro h
      obtain ⟨name, hm, hn⟩ := hf h
      exact ⟨name, List.mem_cons_of_mem _ hm, hn⟩
    have hplain := hp p List.mem_cons_self
    cases p with
    | char c =>
      refine ⟨.char c :: qs, replaced, hs.cons hplain (by simp), ?_, .char he, hf'⟩
      rw [replace, Traced.value_bind_ok _ hr]
      rfl
    | reference name =>
      cases hn : lookup (String.ofList name) with
      | none =>
        refine ⟨.reference name :: qs, replaced, hs.cons hplain (by simpa using hn), ?_, .kept hn he, hf'⟩
        rw [replace, Traced.value_bind_ok _ (Traced.value_note _), hn]
        rw [Traced.value_bind_ok _ hr]
        rfl
      | some raw =>
        obtain ⟨ins, hsi, hri, hei⟩ := hi name raw List.mem_cons_self hn
        refine ⟨ins ++ qs, true, hsi.append hs, ?_, ?_, fun _ => ⟨name, List.mem_cons_self, by rw [hn]; rfl⟩⟩
        · rw [replace, Traced.value_bind_ok _ (Traced.value_note _), hn]
          dsimp only
          rw [Traced.value_bind_ok _ hri, Traced.value_bind_ok _ hr, textOf_append]
          rfl
        · rw [textOf_append]
          exact .replaced hn hei he

/-- A text is fully expanded if what its references stand for is, on one level less. The result of a round that
has replaced something takes that level, too. -/
theorem expand_of_expandsInside {levels : Nat} {text : List Char} (ht : IsWellFormed text)
    (hl : (∃ x, RefersTo lookup text x) → levels ≠ 0)
    (hi : ExpandsInside lookup (expand lookup levels) (pieces text)) :
    ∃ qs, Settled lookup qs ∧ (expand lookup (levels + 1) text).value = .ok (textOf qs) ∧
      Expands lookup (pieces text) (textOf qs) := by
  have hp : ∀ p ∈ pieces text, p.IsPlain := by
    obtain ⟨ps, hp, rfl⟩ := ht
    rw [pieces_textOf hp]
    exact hp
  obtain ⟨qs, replaced, hs, hr, he, hf⟩ := replace_of_plain hp hi
  refine ⟨qs, hs, ?_, he⟩
  rw [expand_succ, Traced.value_bind_ok _ hr]
  cases replaced with
  | false => rfl
  | true =>
    obtain ⟨name, hm, hn⟩ := hf rfl
    obtain ⟨rest, rfl⟩ := Nat.exists_eq_succ_of_ne_zero (hl ⟨_, refersTo_ofList hm hn⟩)
    have hne := replace_ne (fun _ _ => isExpanded_of_expand) hr
    simp only [Bool.not_true, Bool.false_or, beq_iff_eq, hne, if_false]
    exact expand_of_isExpanded hs.isExpanded rest

/-- With a level for each reference of its longest chain, and one more, a text is fully expanded. -/
theorem expand_of_wellFormed (hw : ∀ x raw, lookup x = some raw → IsWellFormed raw.toList) {levels : Nat}
    {text : List Char} (ht : IsWellFormed text)
    (hd : ∀ x xs, RefersTo lookup text x → List.IsChain (Leads lookup) (x :: xs) → (x :: xs).length ≤ levels) :
    ∃ qs, Settled lookup qs ∧ (expand lookup (levels + 1) text).value = .ok (textOf qs) ∧
      Expands lookup (pieces text) (textOf qs) := by
  have hl : (∃ x, RefersTo lookup text x) → levels ≠ 0 := by
    rintro ⟨x, hx⟩ rfl
    simpa using hd x [] hx (.singleton x)
  induction levels generalizing text with
  | zero =>
    refine expand_of_expandsInside ht hl fun name raw hm hn => ?_
    exact absurd rfl (hl ⟨_, refersTo_ofList hm (by rw [hn]; rfl)⟩)
  | succ levels ih =>
    refine expand_of_expandsInside ht hl fun name raw hm hn => ?_
    have hx : RefersTo lookup text (String.ofList name) := refersTo_ofList hm (by rw [hn]; rfl)
    have hd' : ∀ y ys, RefersTo lookup raw.toList y → List.IsChain (Leads lookup) (y :: ys) →
        (y :: ys).length ≤ levels := by
      intro y ys hy hc
      have hlen := hd _ (y :: ys) hx (List.isChain_cons_cons.mpr ⟨⟨raw, hn, hy⟩, hc⟩)
      simpa using hlen
    refine ih (hw _ _ hn) hd' ?_
    rintro ⟨y, hy⟩ rfl
    simpa using hd' y [] hy (.singleton y)

/-- The limit on nesting is exact. A value that refers to a chain of more names than the limit, and so one that
refers into a cycle, cannot be substituted in. Where the value and all texts are well formed and no chain is
longer than the limit, the substitution succeeds, and its result is the full expansion of the value. -/
theorem depth_limit_exact (lookup : String → Option String) (value : String) (name : Option String) (limit : Int)
    (h : 0 ≤ limit) :
    (∀ x xs, RefersTo lookup value.toList x → List.IsChain (Leads lookup) (x :: xs) → limit < (x :: xs).length →
      (substitute (some value) lookup name limit).value = .error (.substitutionTooDeep (name.getD value) limit)) ∧
    (∀ x y, RefersTo lookup value.toList x → Relation.ReflTransGen (Leads lookup) x y →
      Relation.TransGen (Leads lookup) y y →
      (substitute (some value) lookup name limit).value = .error (.substitutionTooDeep (name.getD value) limit)) ∧
    (IsWellFormed value.toList → (∀ x raw, lookup x = some raw → IsWellFormed raw.toList) →
      (∀ x xs, RefersTo lookup value.toList x → List.IsChain (Leads lookup) (x :: xs) → (x :: xs).length ≤ limit) →
      ∃ r, (substitute (some value) lookup name limit).value = .ok (some r) ∧
        ∀ text, Expands lookup (pieces value.toList) text ↔ text = r.toList) := by
  have hlong : ∀ x xs, RefersTo lookup value.toList x → List.IsChain (Leads lookup) (x :: xs) →
      limit < (x :: xs).length →
      (substitute (some value) lookup name limit).value = .error (.substitutionTooDeep (name.getD value) limit) := by
    intro x xs hx hc hl
    refine substitute_tooDeep (fun result hr => ?_) name
    have hlt := length_lt_of_expand hr hx hc
    omega
  refine ⟨hlong, fun x y hx hxy hy => ?_, fun ht hw hd => ?_⟩
  · have hm : MeetsCycle lookup x := ⟨y, hxy, hy⟩
    obtain ⟨xs, hl, hc⟩ := exists_chain_of_endless (fun _ => MeetsCycle.next) limit.toNat hm
    exact hlong x xs hx hc (by rw [List.length_cons, hl]; omega)
  · obtain ⟨levels, rfl⟩ := Int.eq_ofNat_of_zero_le h
    obtain ⟨qs, -, hv, he⟩ := expand_of_wellFormed hw ht fun x xs hx hc => by exact_mod_cast hd x xs hx hc
    refine ⟨String.ofList (textOf qs), substitute_some.mpr ?_, fun text => ⟨fun ht => ?_, fun ht => ?_⟩⟩
    · rw [String.toList_ofList]
      exact hv
    · rw [String.toList_ofList]
      exact ht.unique he
    · rw [ht, String.toList_ofList]
      exact he

/-- A chain of two references, beside one that stands for nothing, and a name that stands for itself. -/
theorem depth_limit_exact_chain :
    let lookup := fun x => if x = "a" then some "x$\x7bb\x7d" else if x = "b" then some "y$\x7bc\x7d"
      else if x = "p" then some "$\x7bp\x7d" else none
    let value := "$\x7ba\x7d-$\x7bc\x7d"
    RefersTo lookup value.toList "a" ∧ List.IsChain (Leads lookup) ["a", "b"] ∧
      (substitute (some value) lookup none 1).value = .error (.substitutionTooDeep value 1) ∧
      RefersTo lookup "$\x7bp\x7d".toList "p" ∧ Relation.TransGen (Leads lookup) "p" "p" ∧
      (substitute (some "$\x7bp\x7d") lookup (some "k") 20).value = .error (.substitutionTooDeep "k" 20) ∧
      IsWellFormed value.toList ∧ (∀ x raw, lookup x = some raw → IsWellFormed raw.toList) ∧
      (∀ x xs, RefersTo lookup value.toList x → List.IsChain (Leads lookup) (x :: xs) → (x :: xs).length ≤ (2 : Int)) ∧
      (substitute (some value) lookup none 2).value = .ok (some "xy$\x7bc\x7d-$\x7bc\x7d") := by
  intro lookup value
  have hname : ∀ c, isNameChar c = true → IsName [c] := fun c hc => ⟨by simp, by simpa using hc⟩
  have hvalue : ∀ p ∈ [Piece.reference ['a'], .char '-', .reference ['c']], p.IsPlain := by
    simp [Piece.IsPlain, hname 'a' (by decide), hname 'c' (by decide)]
  have ha : ∀ p ∈ [Piece.char 'x', .reference ['b']], p.IsPlain := by simp [Piece.IsPlain, hname 'b' (by decide)]
  have hb : ∀ p ∈ [Piece.char 'y', .reference ['c']], p.IsPlain := by simp [Piece.IsPlain, hname 'c' (by decide)]
  have hp : ∀ p ∈ [Piece.reference ['p']], p.IsPlain := by simp [Piece.IsPlain, hname 'p' (by decide)]
  have hpv : pieces value.toList = [.reference ['a'], .char '-', .reference ['c']] := by
    change pieces "$\x7ba\x7d-$\x7bc\x7d".toList = _
    exact pieces_textOf hvalue
  have hpa : pieces "x$\x7bb\x7d".toList = [.char 'x', .reference ['b']] := pieces_textOf ha
  have hpb : pieces "y$\x7bc\x7d".toList = [.char 'y', .reference ['c']] := pieces_textOf hb
  have hpp : pieces "$\x7bp\x7d".toList = [.reference ['p']] := pieces_textOf hp
  have hx : RefersTo lookup value.toList "a" := by
    rw [refersTo_iff, hpv]
    decide
  have hab : Leads lookup "a" "b" := by
    refine ⟨_, rfl, ?_⟩
    rw [refersTo_iff, hpa]
    decide
  have hpq : RefersTo lookup "$\x7bp\x7d".toList "p" := by
    rw [refersTo_iff, hpp]
    decide
  have hcycle : Relation.TransGen (Leads lookup) "p" "p" := .single ⟨_, rfl, hpq⟩
  have hc : List.IsChain (Leads lookup) ["a", "b"] := List.isChain_cons_cons.mpr ⟨hab, .singleton _⟩
  have hwv : IsWellFormed value.toList := ⟨_, hvalue, by rw [← hpv, textOf_pieces]⟩
  have hw : ∀ x raw, lookup x = some raw → IsWellFormed raw.toList := by
    intro x raw hr
    simp only [lookup] at hr
    split_ifs at hr
    · cases hr
      exact ⟨_, ha, rfl⟩
    · cases hr
      exact ⟨_, hb, rfl⟩
    · cases hr
      exact ⟨_, hp, rfl⟩
  have hd : ∀ x xs, RefersTo lookup value.toList x → List.IsChain (Leads lookup) (x :: xs) →
      (x :: xs).length ≤ (2 : Int) := by
    intro x xs hr hc
    rw [refersTo_iff, hpv] at hr
    obtain ⟨hm, hs⟩ := hr
    have hx : x.toList = "a".toList ∨ x.toList = "c".toList := by simpa using hm
    rcases hx with hx | hx
    · obtain rfl := String.toList_injective hx
      rcases xs with _ | ⟨y, _ | ⟨z, zs⟩⟩
      · simp
      · simp
      · obtain ⟨⟨raw, hraw, hy⟩, hc⟩ := List.isChain_cons_cons.mp hc
        obtain ⟨⟨raw', hraw', hz⟩, -⟩ := List.isChain_cons_cons.mp hc
        obtain rfl : "x$\x7bb\x7d" = raw := Option.some.inj hraw
        rw [refersTo_iff, hpa] at hy
        have hy : y.toList = "b".toList := by simpa using hy.1
        obtain rfl := String.toList_injective hy
        obtain rfl : "y$\x7bc\x7d" = raw' := Option.some.inj hraw'
        rw [refersTo_iff, hpb] at hz
        have hz' : z.toList = "c".toList := by simpa using hz.1
        obtain rfl := String.toList_injective hz'
        exact absurd hz.2 (by decide)
    · obtain rfl := String.toList_injective hx
      exact absurd hs (by decide)
  obtain ⟨hlong, -, -⟩ := depth_limit_exact lookup value none 1 (by decide)
  obtain ⟨-, hmeets, -⟩ := depth_limit_exact lookup "$\x7bp\x7d" (some "k") 20 (by decide)
  obtain ⟨-, -, hfull⟩ := depth_limit_exact lookup value none 2 (by decide)
  obtain ⟨r, hr, hu⟩ := hfull hwv hw hd
  have hea : lookup (String.ofList ['a']) = some "x$\x7bb\x7d" := rfl
  have heb : lookup (String.ofList ['b']) = some "y$\x7bc\x7d" := rfl
  have hec : lookup (String.ofList ['c']) = none := rfl
  have hb' : Expands lookup (pieces "y$\x7bc\x7d".toList) "y$\x7bc\x7d".toList := by
    rw [hpb]
    exact .char (.kept hec .nil)
  have ha' : Expands lookup (pieces "x$\x7bb\x7d".toList) "xy$\x7bc\x7d".toList := by
    rw [hpa]
    exact .char (.replaced heb hb' .nil)
  have he : Expands lookup (pieces value.toList) "xy$\x7bc\x7d-$\x7bc\x7d".toList := by
    rw [hpv]
    exact .replaced hea ha' (.char (.kept hec .nil))
  have hr' : r = "xy$\x7bc\x7d-$\x7bc\x7d" := String.toList_injective ((hu _).mp he).symm
  refine ⟨hx, hc, hlong "a" ["b"] hx hc (by decide), hpq, hcycle, hmeets "p" "p" hpq .refl hcycle, hwv, hw, hd, ?_⟩
  rw [hr, hr']

end Substitution
end ConfigLayers
