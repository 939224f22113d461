import ConfigLayers.Endpoint
import ConfigLayers.Proofs.Address
import ConfigLayers.Proofs.Failing
import ConfigLayers.Proofs.Traced

/-! Which hosts with a port come back from the text that they are written as. -/
namespace ConfigLayers
namespace Endpoint

open Text

variable {s : String} {key : Option String} {e : Endpoint}

/-- What an endpoint is like that has been read from some text. -/
structure IsRead (e : Endpoint) : Prop where
  named : e.host.toList ≠ []
  normal : Url.IsNormal e.host.toList
  plain : ∀ c ∈ e.host.toList, Url.IsPlain c
  oneSided : ('[' ∈ e.host.toList ∨ ':' ∈ e.host.toList) → ']' ∉ e.host.toList
  bracketable : ':' ∈ e.host.toList → Url.isBracketable e.host.toList = true
  bounds : 0 ≤ e.port ∧ e.port ≤ 65535

theorem exists_of_parse {defaultPort : Option Int} (h : parse s defaultPort key = .ok e) :
    ∃ t u port, Url.split t "" = .ok u ∧ u.host? = some e.host ∧ u.port? = .ok port ∧
      (port.map Int.ofNat <|> defaultPort) = some e.port ∧ 0 ≤ e.port := by
  unfold parse at h
  dsimp only at h
  split at h
  · cases h
  · split at h
    · rename_i host port path hparsed
      obtain ⟨u, hu, hparsed⟩ := exists_of_bind_eq_ok hparsed
      obtain ⟨port', hport, hparsed⟩ := exists_of_bind_eq_ok hparsed
      obtain ⟨hhost, hrest⟩ := Prod.mk.inj (Except.ok.inj hparsed)
      obtain ⟨rfl, -⟩ := Prod.mk.inj hrest
      split at h
      · rename_i p hp
        split at h
        · rename_i haccepted
          cases h
          rw [Bool.and_eq_true, decide_eq_true_eq] at haccepted
          exact ⟨_, u, _, hu, hhost, hport, hp, haccepted.1⟩
        · cases h
      · cases h
    · cases h

theorem isRead_of_parse {defaultPort : Option Int} (hport : ∀ p ∈ defaultPort, 0 ≤ p ∧ p ≤ 65535)
    (h : parse s defaultPort key = .ok e) : IsRead e := by
  obtain ⟨t, u, port, hsplit, hhost, hread, hp, hpos⟩ := exists_of_parse h
  obtain ⟨hne, hnormal⟩ := Url.host?_eq_some_iff.mp hhost
  obtain ⟨hauthority, hvalid⟩ := Url.authority_of_split hsplit
  obtain ⟨hmem, hat, hsides⟩ := Url.hostAndPort_fst u.authority
  have hplain : ∀ c ∈ (Url.hostAndPort u.authority).1, Url.IsPlain c := fun c hc =>
    ⟨hauthority c (hmem c hc), fun hc' => hat (hc' ▸ hc), Url.hidesDelimiter_of_valid hvalid (hmem c hc)⟩
  have hascii : isNoForm 0 0x60 = true := by decide +kernel
  have hsigns : ∀ c, c.toNat ≤ 0x60 → c ∈ e.host.toList → c ∈ (Url.hostAndPort u.authority).1 := by
    intro c hc hm
    rw [hnormal] at hm
    exact Url.mem_of_mem_normal hascii (Nat.zero_le _) hc hm
  refine ⟨?_, hnormal ▸ Url.isNormal_normal _, hnormal ▸ Url.isPlain_of_mem_normal hplain, ?_, ?_, hpos, ?_⟩
  · rw [hnormal]
    exact Url.normal_ne_nil hne
  · intro hside hclose
    refine (hsides (hside.imp ?_ ?_)).2 (hsigns ']' (by decide) hclose)
    · exact hsigns '[' (by decide)
    · exact hsigns ':' (by decide)
  · intro hcolon
    have hopen := (hsides (.inr (hsigns ':' (by decide) hcolon))).1
    rw [hnormal]
    exact Url.isBracketable_normal ((Url.authorityIsValid_iff.mp hvalid).2.2 hopen).2
  · cases port with
    | none => exact (hport _ hp).2
    | some p =>
      have hprinted : Int.ofNat p = e.port := Option.some.inj hp
      rw [← hprinted]
      exact Int.ofNat_le.mpr (Url.port?_le hread)

theorem holdsScheme_of_notMem {cs : List Char} (h : '/' ∉ cs) : holdsScheme cs = false := by
  induction cs with
  | nil => rfl
  | cons c cs ih =>
    have hcs := mt (List.mem_cons_of_mem c) h
    unfold holdsScheme
    split
    · rename_i heq
      cases heq
      simp at h
    · rename_i heq
      cases heq
      exact ih hcs
    · rfl

/-- A text without the marks around an authority is read as one. -/
theorem parse_eq_ok_iff_of_plain {cs : List Char} (ht : trimChars s.toList = cs) (hne : cs ≠ [])
    (hp : ∀ c ∈ cs, Url.IsPlain c) :
    parse s none key = .ok e ↔
      Url.authorityIsValid cs = true ∧ (⟨"", cs, [], [], []⟩ : Url).host? = some e.host ∧
        ∃ p : Nat, (⟨"", cs, [], [], []⟩ : Url).port? = .ok (some p) ∧ e.port = p := by
  have htrim : trim s = String.ofList cs := by rw [trim, ht]
  have hempty : (String.ofList cs == "") = false := by
    rw [beq_eq_false_iff_ne, ne_eq, ← String.toList_inj, String.toList_ofList]
    exact hne
  have hscheme : holdsScheme (String.ofList cs).toList = false := by
    rw [String.toList_ofList]
    exact holdsScheme_of_notMem fun hm => by cases (hp _ hm).counts.2
  have hsplit : Url.split ("//" ++ String.ofList cs) "" =
      if Url.authorityIsValid cs then .ok ⟨"", cs, [], [], []⟩ else .error .malformedUrl := by
    refine Url.split_of_authority ?_ fun c hc => (hp c hc).counts
    rw [String.toList_append, String.toList_ofList, String.toList_ofList]
    rfl
  unfold parse
  dsimp only
  rw [htrim, hempty, hscheme]
  simp only [Bool.false_eq_true, if_false, hsplit]
  cases Url.authorityIsValid cs with
  | false =>
    refine iff_of_false ?_ (fun h => by cases h.1)
    intro h
    cases h
  | true =>
    simp only [if_true, true_and]
    generalize hu : (⟨"", cs, [], [], []⟩ : Url) = u
    have hpath : u.path = [] := hu ▸ rfl
    obtain ⟨host, port⟩ := e
    cases hport : u.port? with
    | error fault => simp [bind, Except.bind, hport]
    | ok found =>
      cases hhost : u.host? with
      | none => simp [bind, Except.bind, pure, Except.pure, hport, hhost]
      | some name =>
        cases found with
        | none => simp [bind, Except.bind, pure, Except.pure, hport, hhost]
        | some p => simp [bind, Except.bind, pure, Except.pure, hport, hhost, hpath, eq_comm]

theorem toList_text (h : 0 ≤ e.port) :
    e.text.toList = (if ':' ∈ e.host.toList then '[' :: (e.host.toList ++ [']']) else e.host.toList) ++
      ':' :: Integer.digitsOf e.port.toNat := by
  have hport : Integer.text e.port = Integer.natText e.port.toNat := by
    rw [Integer.text, if_neg (Int.not_lt.mpr h)]
    congr 1
    omega
  rw [text, hport]
  by_cases hc : ':' ∈ e.host.toList
  · simp [hc, Integer.toList_natText]
  · simp [hc, Integer.toList_natText]

namespace IsRead

variable (h : IsRead e)

include h

theorem plain_of_mem {c : Char} (hc : c ∈ e.host.toList ∨ c ∈ Integer.digitsOf e.port.toNat ∨ c ∈ ['[', ']', ':']) :
    Url.IsPlain c := by
  have hsigns : (['[', ']', ':'].all fun c => !Url.marks.contains c && !Url.hidesDelimiter c) = true := by decide
  rcases hc with hc | hc | hc
  · exact h.plain c hc
  · exact Url.isPlain_of_isAsciiDigit (Integer.isAsciiDigit_of_mem_digitsOf hc)
  · have hsign := List.all_eq_true.mp hsigns c hc
    simp only [Bool.and_eq_true, Bool.not_eq_true', List.contains_eq_mem, decide_eq_false_iff_not] at hsign
    exact Url.isPlain_iff.mpr hsign

theorem port?_eq {u : Url} (hu : (Url.hostAndPort u.authority).2 = Integer.digitsOf e.port.toNat) :
    ∃ p : Nat, u.port? = .ok (some p) ∧ e.port = p := by
  obtain ⟨hlow, hhigh⟩ := h.bounds
  exact ⟨e.port.toNat, Url.port?_digitsOf hu (by omega), (Int.toNat_of_nonneg hlow).symm⟩

theorem parse_text_of_mem (hc : ':' ∈ e.host.toList) (key : Option String) : parse e.text none key = .ok e := by
  have htrim : trimChars e.text.toList = '[' :: (e.host.toList ++ ']' :: ':' :: Integer.digitsOf e.port.toNat) := by
    rw [toList_text h.bounds.1, if_pos hc]
    have hopen : ∀ c ∈ ['['], isBlank c = false := fun c hm => by
      rw [List.mem_singleton.mp hm]
      rfl
    have hends := trimChars_of_ends (List.cons_ne_nil _ _) (Integer.digitsOf_ne_nil e.port.toNat) hopen
      (fun c hd => isBlank_of_isAsciiDigit (Integer.isAsciiDigit_of_mem_digitsOf hd)) (e.host.toList ++ [']', ':'])
    simpa using hends
  have hplain : ∀ c ∈ '[' :: (e.host.toList ++ ']' :: ':' :: Integer.digitsOf e.port.toNat), Url.IsPlain c := by
    intro c hc
    simp only [List.mem_cons, List.mem_append] at hc
    rcases hc with rfl | hc | rfl | rfl | hc
    · exact h.plain_of_mem (.inr (.inr (by decide)))
    · exact h.plain_of_mem (.inl hc)
    · exact h.plain_of_mem (.inr (.inr (by decide)))
    · exact h.plain_of_mem (.inr (.inr (by decide)))
    · exact h.plain_of_mem (.inr (.inl hc))
  obtain ⟨hhost, houter⟩ := Url.hostAndPort_of_brackets rfl (fun hm => (hplain _ hm).notUser rfl) (h.oneSided (.inr hc))
  refine (parse_eq_ok_iff_of_plain htrim (List.cons_ne_nil _ _) hplain).mpr ⟨?_, ?_, ?_⟩
  · refine Url.authorityIsValid_iff.mpr ⟨fun c hm => (hplain c hm).notHidden, by simp, fun _ => ⟨houter, ?_⟩⟩
    rw [hhost]
    exact h.bracketable hc
  · rw [Url.host?_eq_some_iff, hhost]
    exact ⟨h.named, h.normal.normal_eq.symm⟩
  · exact h.port?_eq (by rw [hhost])

theorem parse_text_iff_of_notMem (hc : ':' ∉ e.host.toList) (key : Option String) :
    parse e.text none key = .ok e ↔
      '[' ∉ e.host.toList ∧ ']' ∉ e.host.toList ∧ ∀ c ∈ e.host.toList.head?, isBlank c = false := by
  have hdigits : ∀ c ∈ Integer.digitsOf e.port.toNat, isAsciiDigit c = true :=
    fun c => Integer.isAsciiDigit_of_mem_digitsOf
  have htrim : trimChars e.text.toList = dropBlanks e.host.toList ++ ':' :: Integer.digitsOf e.port.toNat := by
    rw [toList_text h.bounds.1, if_neg hc, trimChars_append_cons (by decide),
      dropBlanksEnd_eq_self fun c hd => isBlank_of_isAsciiDigit (hdigits c hd)]
  have hplain : ∀ c ∈ dropBlanks e.host.toList ++ ':' :: Integer.digitsOf e.port.toNat, Url.IsPlain c := by
    intro c hc
    rw [List.mem_append, List.mem_cons] at hc
    rcases hc with hc | rfl | hc
    · exact h.plain_of_mem (.inl ((List.dropWhile_sublist _).subset hc))
    · exact h.plain_of_mem (.inr (.inr (by decide)))
    · exact h.plain_of_mem (.inr (.inl hc))
  have hbracket : ∀ c ∈ ['[', ']'],
      (c ∈ dropBlanks e.host.toList ++ ':' :: Integer.digitsOf e.port.toNat ↔ c ∈ e.host.toList) := by
    have hbrackets : (['[', ']'].all fun c => !isBlank c && c != ':' && !isAsciiDigit c) = true := by decide
    simp only [List.all_eq_true, Bool.and_eq_true, Bool.not_eq_true', bne_iff_ne] at hbrackets
    intro c hm
    obtain ⟨⟨hblank, hcolon⟩, hdigit⟩ := hbrackets c hm
    have hnot : c ∉ Integer.digitsOf e.port.toNat := fun hd => by
      rw [hdigits c hd] at hdigit
      cases hdigit
    rw [List.mem_append, List.mem_cons, mem_dropBlanks_iff hblank]
    simp [hcolon, hnot]
  have hparts : '[' ∉ e.host.toList →
      Url.hostAndPort (dropBlanks e.host.toList ++ ':' :: Integer.digitsOf e.port.toNat) =
        (dropBlanks e.host.toList, Integer.digitsOf e.port.toNat) := fun hopen =>
    Url.hostAndPort_of_notMem rfl (fun hm => (hplain _ hm).notUser rfl) (mt (hbracket '[' (by decide)).mp hopen)
      fun hm => hc ((List.dropWhile_sublist _).subset hm)
  rw [parse_eq_ok_iff_of_plain htrim (by simp) hplain, Url.authorityIsValid_iff, hbracket '[' (by decide),
    hbracket ']' (by decide), Url.host?_eq_some_iff]
  constructor
  · rintro ⟨⟨-, hsides, -⟩, ⟨-, hhost⟩, -⟩
    have hopen : '[' ∉ e.host.toList := fun hm => h.oneSided (.inl hm) (hsides.mp hm)
    rw [hparts hopen, h.normal.dropBlanks.normal_eq] at hhost
    exact ⟨hopen, mt hsides.mpr hopen, dropBlanks_eq_self_iff.mp hhost.symm⟩
  · rintro ⟨hopen, hclose, hfirst⟩
    have hself := dropBlanks_eq_self_iff.mpr hfirst
    refine ⟨⟨fun c hm => (hplain c hm).notHidden, iff_of_false hopen hclose, fun hm => absurd hm hopen⟩, ?_,
      h.port?_eq (by rw [hparts hopen])⟩
    rw [hparts hopen, hself]
    exact ⟨h.named, h.normal.normal_eq.symm⟩

end IsRead

/-- An endpoint that is read comes back from its text if its host has a colon in it, and so stands in brackets, or else
if the host has no bracket in it and does not start with a blank. -/
theorem reread_iff {defaultPort : Option Int} (hport : ∀ p ∈ defaultPort, 0 ≤ p ∧ p ≤ 65535)
    (h : parse s defaultPort key = .ok e) (key' : Option String) :
    parse e.text none key' = .ok e ↔
      ':' ∈ e.host.toList ∨
        ('[' ∉ e.host.toList ∧ ']' ∉ e.host.toList ∧ ∀ c ∈ e.host.toList.head?, isBlank c = false) := by
  have hread := isRead_of_parse hport h
  by_cases hc : ':' ∈ e.host.toList
  · exact iff_of_true (hread.parse_text_of_mem hc key') (.inl hc)
  · rw [hread.parse_text_iff_of_notMem hc key']
    simp [hc]

/-- An address with a zone that keeps its letter case, behind a user and with zeros in front of its port. -/
theorem reread_zone :
    parse "user@[FE80::1%Eth0]:0080" none none = .ok ⟨"fe80::1%Eth0", 80⟩ ∧
      parse (text ⟨"fe80::1%Eth0", 80⟩) none none = .ok ⟨"fe80::1%Eth0", 80⟩ := by
  have h : parse "user@[FE80::1%Eth0]:0080" none none = .ok ⟨"fe80::1%Eth0", 80⟩ :=
    Traced.eq_ok_of_toOption (by decide +kernel)
  exact ⟨h, (reread_iff (by simp) h none).mpr (.inl (by decide))⟩

/-- A host with a blank in front. -/
theorem not_reread :
    parse "x@ a:80" none none = .ok ⟨" a", 80⟩ ∧ ¬ parse (text ⟨" a", 80⟩) none none = .ok ⟨" a", 80⟩ := by
  have hblank : parse "x@ a:80" none none = .ok ⟨" a", 80⟩ := Traced.eq_ok_of_toOption (by decide +kernel)
  refine ⟨hblank, fun h => ?_⟩
  have hread := isRead_of_parse (by simp) hblank
  have hfirst := ((hread.parse_text_iff_of_notMem (by decide) none).mp h).2.2 ' ' rfl
  cases hfirst

end Endpoint
end ConfigLayers
