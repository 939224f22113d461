import ConfigLayers.Proofs.Number.Numeral
import ConfigLayers.Proofs.Text.Lower
import ConfigLayers.Url

/-! The authority of a locator, and the host in it. -/
namespace ConfigLayers
namespace Url

open Text

section

variable {c : Char} {cs before after : List Char}

theorem cut_append (h : c ∉ before) (after : List Char) : cut c (before ++ c :: after) = some (before, after) := by
  induction before with
  | nil => simp [cut]
  | cons d before ih =>
    obtain ⟨hd, hbefore⟩ := not_or.mp (mt List.mem_cons.mpr h)
    rw [List.cons_append, cut, ih hbefore]
    simp [Ne.symm hd]

theorem cut_of_notMem (h : c ∉ cs) : cut c cs = none := by
  induction cs with
  | nil => rfl
  | cons d cs ih =>
    obtain ⟨hd, hcs⟩ := not_or.mp (mt List.mem_cons.mpr h)
    rw [cut, ih hcs]
    simp [Ne.symm hd]

theorem cut_eq_some_iff : cut c cs = some (before, after) ↔ cs = before ++ c :: after ∧ c ∉ before := by
  constructor
  · intro h
    by_cases hc : c ∈ cs
    · obtain ⟨first, last, rfl, hfirst⟩ := List.eq_append_cons_of_mem hc
      rw [cut_append hfirst] at h
      cases h
      exact ⟨rfl, hfirst⟩
    · rw [cut_of_notMem hc] at h
      cases h
  · rintro ⟨rfl, hbefore⟩
    exact cut_append hbefore after

theorem cut_eq_none_iff : cut c cs = none ↔ c ∉ cs := by
  refine ⟨fun h hc => ?_, cut_of_notMem⟩
  obtain ⟨first, last, rfl, hfirst⟩ := List.eq_append_cons_of_mem hc
  rw [cut_append hfirst] at h
  cases h

theorem cutOr_append (h : c ∉ before) (after : List Char) : cutOr c (before ++ c :: after) = (before, after) := by
  rw [cutOr, cut_append h]
  rfl

theorem cutOr_of_notMem (h : c ∉ cs) : cutOr c cs = (cs, []) := by
  rw [cutOr, cut_of_notMem h]
  rfl

theorem notMem_cutOr (c : Char) (cs : List Char) : c ∉ (cutOr c cs).1 ∧ ∀ d ∈ (cutOr c cs).1, d ∈ cs := by
  by_cases hc : c ∈ cs
  · obtain ⟨first, last, rfl, hfirst⟩ := List.eq_append_cons_of_mem hc
    rw [cutOr_append hfirst]
    exact ⟨hfirst, fun d => List.mem_append_left _⟩
  · rw [cutOr_of_notMem hc]
    exact ⟨hc, fun d => id⟩

theorem notMem_afterLast (c : Char) (cs : List Char) : c ∉ afterLast c cs ∧ ∀ d ∈ afterLast c cs, d ∈ cs := by
  constructor
  · intro h
    have hne := List.mem_takeWhile_imp (List.mem_reverse.mp h)
    simp at hne
  · intro d hd
    exact List.mem_reverse.mp ((List.takeWhile_sublist _).subset (List.mem_reverse.mp hd))

theorem afterLast_of_notMem (h : c ∉ cs) : afterLast c cs = cs := by
  have hall : ∀ d ∈ cs.reverse, (d != c) = true := by
    intro d hd
    rw [bne_iff_ne]
    rintro rfl
    exact h (List.mem_reverse.mp hd)
  rw [afterLast, List.takeWhile_eq_self_iff.mpr hall, List.reverse_reverse]

end

theorem hostAndPort_fst (authority : List Char) :
    (∀ c ∈ (hostAndPort authority).1, c ∈ authority) ∧ '@' ∉ (hostAndPort authority).1 ∧
      (('[' ∈ (hostAndPort authority).1 ∨ ':' ∈ (hostAndPort authority).1) →
        '[' ∈ authority ∧ ']' ∉ (hostAndPort authority).1) := by
  obtain ⟨hat, hplace⟩ := notMem_afterLast '@' authority
  unfold hostAndPort
  dsimp only
  cases hcut : cut '[' (afterLast '@' authority) with
  | none =>
    obtain ⟨hcolon, hsub⟩ := notMem_cutOr ':' (afterLast '@' authority)
    have hopen := cut_eq_none_iff.mp hcut
    refine ⟨fun c hc => hplace c (hsub c hc), fun hm => hat (hsub _ hm), ?_⟩
    rintro (hm | hm)
    · exact absurd (hsub _ hm) hopen
    · exact absurd hm hcolon
  | some parts =>
    obtain ⟨before, bracketed⟩ := parts
    obtain ⟨heq, -⟩ := cut_eq_some_iff.mp hcut
    obtain ⟨hclose, hsub⟩ := notMem_cutOr ']' bracketed
    have hmem : ∀ c ∈ (cutOr ']' bracketed).1, c ∈ afterLast '@' authority := by
      intro c hc
      rw [heq]
      exact List.mem_append_right _ (List.mem_cons_of_mem _ (hsub c hc))
    have hopen : '[' ∈ afterLast '@' authority := by
      rw [heq]
      exact List.mem_append_right _ List.mem_cons_self
    exact ⟨fun c hc => hplace c (hmem c hc), fun hm => hat (hmem _ hm), fun _ => ⟨hplace _ hopen, hclose⟩⟩

section

variable {authority host port : List Char}

theorem hostAndPort_of_brackets (h : authority = '[' :: (host ++ ']' :: ':' :: port)) (hat : '@' ∉ authority)
    (hclose : ']' ∉ host) : hostAndPort authority = (host, port) ∧ bracketsAreOuter authority = true := by
  have hopen : cut '[' ('[' :: (host ++ ']' :: ':' :: port)) = some ([], host ++ ']' :: ':' :: port) := rfl
  have hcolon : cutOr ':' (':' :: port) = ([], port) := rfl
  unfold hostAndPort bracketsAreOuter
  dsimp only
  rw [afterLast_of_notMem hat, h, hopen]
  dsimp only
  rw [cutOr_append hclose, hcolon]
  exact ⟨rfl, rfl⟩

theorem hostAndPort_of_notMem (h : authority = host ++ ':' :: port) (hat : '@' ∉ authority) (hopen : '[' ∉ authority)
    (hcolon : ':' ∉ host) : hostAndPort authority = (host, port) := by
  unfold hostAndPort
  dsimp only
  rw [afterLast_of_notMem hat, cut_of_notMem hopen, h]
  exact cutOr_append hcolon port

end

/-- A host in lower case, but for what stands behind its first percent sign. -/
def normal (cs : List Char) : List Char :=
  match cut '%' cs with
  | some (name, zone) => lowerAfter [] name ++ '%' :: zone
  | none => lowerAfter [] cs

theorem host?_eq_some_iff {u : Url} {host : String} :
    u.host? = some host ↔ (hostAndPort u.authority).1 ≠ [] ∧ host.toList = normal (hostAndPort u.authority).1 := by
  unfold host? normal
  cases (hostAndPort u.authority).1 with
  | nil => simp
  | cons c cs =>
    dsimp only
    cases cut '%' (c :: cs) with
    | none => simp [← String.toList_inj, lower, eq_comm]
    | some parts => simp [← String.toList_inj, lower, eq_comm]

def IsNormal (cs : List Char) : Prop :=
  ∃ name zone, cs = name ++ zone ∧ (∀ c ∈ name, c ≠ '%' ∧ lowerChar c = [c]) ∧ ∀ c ∈ zone.head?, c = '%'

theorem isNormal_normal (cs : List Char) : IsNormal (normal cs) := by
  have hascii : isNoForm 0 0x60 = true := by decide +kernel
  have hlower : ∀ name, '%' ∉ name → ∀ c ∈ lowerAfter [] name, c ≠ '%' ∧ lowerChar c = [c] := by
    intro name hname c hc
    have hlowers := lowers_lowerAfter [] name
    obtain ⟨d, -, form, hform, hmem⟩ := hlowers.exists_of_mem hc
    refine ⟨?_, hform.lowerChar hmem⟩
    rintro rfl
    exact hname (hlowers.mem hascii hc (by decide) (by decide))
  unfold normal
  split
  · rename_i name zone hcut
    exact ⟨_, '%' :: zone, rfl, hlower name (cut_eq_some_iff.mp hcut).2, by simp⟩
  · rename_i hcut
    exact ⟨_, [], (List.append_nil _).symm, hlower cs (cut_eq_none_iff.mp hcut), by simp⟩

theorem IsNormal.normal_eq {cs : List Char} (h : IsNormal cs) : normal cs = cs := by
  obtain ⟨name, zone, rfl, hname, hzone⟩ := h
  have hnot : '%' ∉ name := fun hm => (hname _ hm).1 rfl
  have hself : lowerAfter [] name = name := lowerAfter_eq_self (fun c hc => (hname c hc).2) []
  cases zone with
  | nil => rw [List.append_nil, normal, cut_of_notMem hnot, hself]
  | cons c zone =>
    obtain rfl : c = '%' := hzone c rfl
    rw [normal, cut_append hnot]
    dsimp only
    rw [hself]

theorem IsNormal.dropBlanks {cs : List Char} (h : IsNormal cs) : IsNormal (dropBlanks cs) := by
  obtain ⟨name, zone, rfl, hname, hzone⟩ := h
  refine ⟨Text.dropBlanks name, zone, ?_, fun c hc => hname c ((List.dropWhile_sublist _).subset hc), hzone⟩
  cases zone with
  | nil => rw [List.append_nil, List.append_nil]
  | cons c zone =>
    obtain rfl : c = '%' := hzone c rfl
    exact dropWhile_append_cons (by decide) name zone

theorem normal_ne_nil {cs : List Char} (h : cs ≠ []) : normal cs ≠ [] := by
  unfold normal
  split
  · exact fun hnil => List.cons_ne_nil _ _ (List.append_eq_nil_iff.mp hnil).2
  · exact (lowers_lowerAfter [] cs).ne_nil h

theorem mem_of_mem_normal {cs : List Char} {d : Char} {low high : Nat} (hno : isNoForm low high = true)
    (hlow : low ≤ d.toNat) (hhigh : d.toNat ≤ high) (hd : d ∈ normal cs) : d ∈ cs := by
  unfold normal at hd
  split at hd
  · rename_i name zone hcut
    obtain ⟨rfl, -⟩ := cut_eq_some_iff.mp hcut
    rcases List.mem_append.mp hd with hd | hd
    · exact List.mem_append_left _ ((lowers_lowerAfter [] name).mem hno hd hlow hhigh)
    · exact List.mem_append_right name hd
  · exact (lowers_lowerAfter [] cs).mem hno hd hlow hhigh

theorem port?_le {u : Url} {p : Nat} (h : u.port? = .ok (some p)) : p ≤ 65535 := by
  unfold port? at h
  split at h
  · cases h
  · dsimp only at h
    split at h
    · split at h
      · rename_i hp
        cases h
        exact hp
      · cases h
    · cases h

theorem port?_digitsOf {u : Url} {p : Nat} (hu : (hostAndPort u.authority).2 = Integer.digitsOf p) (hp : p ≤ 65535) :
    u.port? = .ok (some p) := by
  have hread : Integer.unsigned? (Integer.digitsOf p) = some p :=
    Integer.unsigned?_eq_some_iff.mpr (Integer.denotes_digitsOf p)
  have hlen : (Integer.digitsOf p).length ≤ 5 := Integer.length_digitsOf_le (by decide) (by omega)
  have haccepted : ((Integer.digitsOf p).all isAsciiDigit && decide ((Integer.digitsOf p).length ≤ Integer.maxDigits)) =
      true := by
    rw [Bool.and_eq_true, decide_eq_true_eq, List.all_eq_true]
    exact ⟨fun c => Integer.isAsciiDigit_of_mem_digitsOf, Nat.le_trans hlen (by decide)⟩
  unfold port?
  rw [hu]
  split
  · rename_i hnil
    exact absurd hnil (Integer.digitsOf_ne_nil p)
  · rw [if_pos haccepted, hread]
    exact if_pos hp

/-- A character that can be part of the host of an authority. -/
structure IsPlain (c : Char) : Prop where
  counts : c ∉ ['\t', '\r', '\n'] ∧ isAuthorityEnd c = false
  notUser : c ≠ '@'
  notHidden : hidesDelimiter c = false

def marks : List Char := ['\t', '\r', '\n', '/', '?', '#', '@']

theorem isPlain_iff {c : Char} : IsPlain c ↔ c ∉ marks ∧ hidesDelimiter c = false := by
  constructor
  · rintro ⟨⟨hcounts, hend⟩, hat, hhides⟩
    simp_all [marks, isAuthorityEnd]
  · rintro ⟨hmarks, hhides⟩
    simp only [marks, List.mem_cons, List.not_mem_nil, or_false, not_or] at hmarks
    exact ⟨⟨by simp [hmarks], by simp [isAuthorityEnd, hmarks]⟩, hmarks.2.2.2.2.2.2, hhides⟩

theorem toNat_of_hidesDelimiter {c : Char} (h : hidesDelimiter c = true) :
    (0x2047 ≤ c.toNat ∧ c.toNat ≤ 0x2106) ∨ (0x2a74 ≤ c.toNat ∧ c.toNat ≤ 0x2a74) ∨
      (0xfe13 ≤ c.toNat ∧ c.toNat ≤ 0xff20) := by
  simp only [hidesDelimiter, List.contains_eq_mem, List.mem_cons, List.not_mem_nil, or_false,
    decide_eq_true_eq] at h
  omega

theorem exists_isNoForm {c : Char} (h : ¬ IsPlain c) :
    ∃ low high, isNoForm low high = true ∧ low ≤ c.toNat ∧ c.toNat ≤ high := by
  by_cases hmarks : c ∈ marks
  · have hall : (marks.all fun c => c.toNat ≤ 0x60) = true := by decide
    exact ⟨0, 0x60, by decide +kernel, Nat.zero_le _, of_decide_eq_true (List.all_eq_true.mp hall c hmarks)⟩
  · have hhides : hidesDelimiter c = true := by
      rw [isPlain_iff, not_and, Bool.not_eq_false] at h
      exact h hmarks
    rcases toNat_of_hidesDelimiter hhides with hc | hc | hc
    · exact ⟨0x2047, 0x2106, by decide +kernel, hc⟩
    · exact ⟨0x2a74, 0x2a74, by decide +kernel, hc⟩
    · exact ⟨0xfe13, 0xff20, by decide +kernel, hc⟩

theorem isPlain_of_isAsciiDigit {c : Char} (h : isAsciiDigit c = true) : IsPlain c := by
  refine isPlain_iff.mpr ⟨fun hm => ?_, Bool.eq_false_iff.mpr fun hhides => ?_⟩
  · have hnone : (marks.all fun a => !isAsciiDigit a) = true := by decide
    have hnot := List.all_eq_true.mp hnone c hm
    simp [h] at hnot
  · have hc := toNat_of_hidesDelimiter hhides
    simp only [isAsciiDigit, Bool.and_eq_true, decide_eq_true_eq] at h
    omega

theorem isPlain_of_mem_normal {cs : List Char} (h : ∀ c ∈ cs, IsPlain c) : ∀ c ∈ normal cs, IsPlain c := by
  intro c hc
  by_contra hnot
  obtain ⟨low, high, hno, hlow, hhigh⟩ := exists_isNoForm hnot
  exact hnot (h c (mem_of_mem_normal hno hlow hhigh hc))

theorem authorityIsValid_iff {cs : List Char} :
    authorityIsValid cs = true ↔
      (∀ c ∈ cs, hidesDelimiter c = false) ∧ ('[' ∈ cs ↔ ']' ∈ cs) ∧
        ('[' ∈ cs → bracketsAreOuter cs = true ∧ isBracketable (hostAndPort cs).1 = true) := by
  have hboth : (cs.contains '[' == cs.contains ']') = true ↔ ('[' ∈ cs ↔ ']' ∈ cs) := by
    rw [beq_iff_eq, Bool.eq_iff_iff, List.contains_iff_mem, List.contains_iff_mem]
  have hhides : (!cs.any hidesDelimiter) = true ↔ ∀ c ∈ cs, hidesDelimiter c = false := by
    simp
  rw [authorityIsValid, Bool.and_eq_true, Bool.and_eq_true, hboth, hhides, Bool.or_eq_true, Bool.and_eq_true,
    Bool.not_eq_true', ← Bool.not_eq_true, List.contains_iff_mem, ← imp_iff_not_or]
  tauto

theorem hidesDelimiter_of_valid {cs : List Char} (h : authorityIsValid cs = true) {c : Char} (hc : c ∈ cs) :
    hidesDelimiter c = false :=
  (authorityIsValid_iff.mp h).1 c hc

theorem mem_of_splitScheme {cs rest : List Char} {scheme : String} (h : splitScheme cs = some (scheme, rest)) :
    ∀ c ∈ rest, c ∈ cs := by
  unfold splitScheme at h
  split at h
  · rename_i first name after hcut
    obtain ⟨rfl, -⟩ := cut_eq_some_iff.mp hcut
    split at h
    · cases h
      exact fun c hc => List.mem_append_right _ (List.mem_cons_of_mem _ hc)
    · cases h
  · cases h

def counted (cs : List Char) : List Char :=
  cs.filter fun c => c != '\t' && c != '\r' && c != '\n'

/-- The authority and what follows it. -/
def splitAuthority (cs : List Char) : List Char × List Char :=
  match cs with
  | '/' :: '/' :: rest => (rest.takeWhile (!isAuthorityEnd ·), rest.dropWhile (!isAuthorityEnd ·))
  | _ => ([], cs)

theorem split_eq (s default : String) :
    let located := (splitScheme (counted s.toList)).getD (default, counted s.toList)
    let parts := splitAuthority located.2
    let rest := cutOr '#' parts.2
    split s default =
      if authorityIsValid parts.1 then .ok ⟨located.1, parts.1, (cutOr '?' rest.1).1, (cutOr '?' rest.1).2, rest.2⟩
      else .error .malformedUrl := by
  intro located parts rest
  unfold split
  change (if (!authorityIsValid parts.1) = true then _ else _) = _
  cases authorityIsValid parts.1 <;> rfl

theorem splitAuthority_fst (cs : List Char) :
    ∀ c ∈ (splitAuthority cs).1, c ∈ cs ∧ isAuthorityEnd c = false := by
  unfold splitAuthority
  split
  · intro c hc
    have hmem := (List.takeWhile_sublist _).subset hc
    exact ⟨List.mem_cons_of_mem _ (List.mem_cons_of_mem _ hmem), by simpa using List.mem_takeWhile_imp hc⟩
  · intro c hc
    cases hc

theorem authority_of_split {s default : String} {u : Url} (h : split s default = .ok u) :
    (∀ c ∈ u.authority, c ∉ ['\t', '\r', '\n'] ∧ isAuthorityEnd c = false) ∧ authorityIsValid u.authority = true := by
  rw [split_eq] at h
  split at h
  · rename_i hvalid
    cases h
    refine ⟨fun c hc => ?_, hvalid⟩
    obtain ⟨hmem, hend⟩ := splitAuthority_fst _ c hc
    refine ⟨fun hnot => ?_, hend⟩
    have hcounted : c ∈ counted s.toList := by
      cases hscheme : splitScheme (counted s.toList) with
      | none =>
        rw [hscheme] at hmem
        exact hmem
      | some located =>
        rw [hscheme] at hmem
        exact mem_of_splitScheme hscheme c hmem
    have hcounts := (List.mem_filter.mp hcounted).2
    simp only [List.mem_cons, List.not_mem_nil, or_false] at hnot
    rcases hnot with rfl | rfl | rfl <;> cases hcounts
  · cases h

theorem split_of_authority {s default : String} {cs : List Char} (hs : s.toList = '/' :: '/' :: cs)
    (h : ∀ c ∈ cs, c ∉ ['\t', '\r', '\n'] ∧ isAuthorityEnd c = false) :
    split s default = if authorityIsValid cs then .ok ⟨default, cs, [], [], []⟩ else .error .malformedUrl := by
  have hcounted : counted s.toList = '/' :: '/' :: cs := by
    rw [hs]
    refine List.filter_eq_self.mpr fun c hc => ?_
    simp only [List.mem_cons] at hc
    rcases hc with rfl | rfl | hc
    · rfl
    · rfl
    · have hnot := (h c hc).1
      simp only [List.mem_cons, List.not_mem_nil, or_false, not_or] at hnot
      simp [hnot]
  have hscheme : splitScheme ('/' :: '/' :: cs) = none := by
    unfold splitScheme
    split
    · rename_i first name after hcut
      obtain ⟨heq, -⟩ := cut_eq_some_iff.mp hcut
      rw [← (List.cons.inj heq).1]
      rfl
    · rfl
  have hall : ∀ c ∈ cs, (!isAuthorityEnd c) = true := fun c hc => by rw [(h c hc).2]; rfl
  have hparts : splitAuthority ('/' :: '/' :: cs) = (cs, []) := by
    rw [splitAuthority, List.takeWhile_eq_self_iff.mpr hall, List.dropWhile_eq_nil_iff.mpr hall]
  rw [split_eq, hcounted, hscheme, Option.getD_none, hparts]
  rfl

end Url
end ConfigLayers
