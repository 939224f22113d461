import ConfigLayers.Proofs.Document.Elements

/-! Nesting is splicing. A configuration inside a document may be replaced by its content, and an inclusion of what
is not available by the content of its fallback, wherever they stand. -/
namespace ConfigLayers
namespace Loader

/-- Some content, and what it becomes when one nested configuration in it is replaced by its content, or one of
certain inclusions by the content of its first fallback. It may stand at any depth, but not in a property, whose
elements are fields, nor right in an inclusion, where only a fallback counts. -/
inductive Spliced (isReplaced : List (Xml.Name × String) → Prop) : List Xml.Node → List Xml.Node → Prop where
  | configuration {name : Xml.Name} (attributes : List (Xml.Name × String)) (content rest : List Xml.Node) :
      roleOf name = .configuration →
        Spliced isReplaced (.element name attributes content :: rest) (content ++ rest)
  | fallback {name : Xml.Name} {attributes : List (Xml.Name × String)} (content instead rest : List Xml.Node) :
      roleOf name = .inclusion → isReplaced attributes → firstFallback? content = some instead →
        Spliced isReplaced (.element name attributes content :: rest) (instead ++ rest)
  | behind (n : Xml.Node) {xs ys : List Xml.Node} : Spliced isReplaced xs ys → Spliced isReplaced (n :: xs) (n :: ys)
  | inside {name : Xml.Name} (attributes : List (Xml.Name × String)) (rest : List Xml.Node) {xs ys : List Xml.Node} :
      roleOf name ≠ .property → roleOf name ≠ .inclusion → Spliced isReplaced xs ys →
        Spliced isReplaced (.element name attributes xs :: rest) (.element name attributes ys :: rest)
  | insideInclusion {name : Xml.Name} (child : Xml.Name) (attributes childAttributes : List (Xml.Name × String))
      (before after rest : List Xml.Node) {xs ys : List Xml.Node} :
      roleOf name = .inclusion → Spliced isReplaced xs ys →
        Spliced isReplaced
          (.element name attributes (before ++ .element child childAttributes xs :: after) :: rest)
          (.element name attributes (before ++ .element child childAttributes ys :: after) :: rest)

/-- An inclusion of which no candidate can be fetched, each because of an error of some kind. -/
structure Unfetched (p : Error → Prop) (s : Surroundings) (base : Option String)
    (attributes : List (Xml.Name × String)) : Prop where
  target : targetOf attributes ≠ ""
  tried : ∃ tried, candidates s.world.files.home (targetOf attributes) base = .ok tried ∧
    ∀ r ∈ tried, ∃ e, r.fetch s.resolver s.world = .error e ∧ p e

variable {s : Surroundings} {base : Option String} {xs ys : List Xml.Node}

/-- What relates an element to the content that replaces it relates the contents, if it relates walks that are made of
related ones. -/
theorem Spliced.related {isReplaced : List (Xml.Name × String) → Prop} {R : Walked → Walked → Prop} {c d : Nat}
    (refl : ∀ x, R x x) (chain : ∀ {x x' y y'}, R x x' → R y y' → R (chain x y) (chain x' y'))
    (same : ∀ ns, R (loadContent s (c + 1) base ns).value (loadContent s (d + 1) base ns).value)
    (configuration : ∀ ns, R (loadContent s c base ns).value (loadContent s (d + 1) base ns).value)
    (fallback : ∀ {name attributes content instead}, roleOf name = .inclusion → isReplaced attributes →
      firstFallback? content = some instead →
        R (loadContent s (c + 1) base [.element name attributes content]).value
          (loadContent s (d + 1) base instead).value)
    (nested : ∀ {xs ys}, Spliced isReplaced xs ys → R (loadContent s c base xs).value (loadContent s d base ys).value)
    (inner : ∀ {xs ys}, Spliced isReplaced xs ys →
      R (loadContent s (c - 1) base xs).value (loadContent s (d - 1) base ys).value)
    (h : Spliced isReplaced xs ys) :
    R (loadContent s (c + 1) base xs).value (loadContent s (d + 1) base ys).value := by
  have hhead : ∀ (n : Xml.Node) (ms rest : List Xml.Node),
      R (loadContent s (c + 1) base [n]).value (loadContent s (d + 1) base ms).value →
        R (loadContent s (c + 1) base (n :: rest)).value (loadContent s (d + 1) base (ms ++ rest)).value := by
    intro n ms rest hn
    rw [← List.singleton_append, value_loadContent_append, value_loadContent_append]
    exact chain hn (same rest)
  induction h with
  | configuration attributes content rest hr =>
    refine hhead _ content rest ?_
    rw [value_loadContent_configuration hr]
    exact configuration content
  | fallback content instead rest hr hc hf => exact hhead _ instead rest (fallback hr hc hf)
  | @behind n xs ys _ ih =>
    rw [← List.singleton_append, ← List.singleton_append (l := ys), value_loadContent_append, value_loadContent_append]
    exact chain (same [n]) ih
  | @inside name attributes rest xs ys hp hi hs =>
    refine hhead _ [_] rest ?_
    rw [value_loadContent_singleton, value_loadContent_singleton]
    cases hr : roleOf name with
    | property => exact (hp hr).elim
    | inclusion => exact (hi hr).elim
    | configuration =>
      rw [value_configuration hr, value_configuration hr]
      exact nested hs
    | fallback | unknown =>
      rw [value_of_isPassed (by simp [isPassed, hr]), value_of_isPassed (by simp [isPassed, hr])]
      exact refl _
  | @insideInclusion name child attributes childAttributes before after rest xs ys hr hs =>
    have hsame := same [.element name attributes (before ++ .element child childAttributes xs :: after)]
    refine hhead _ [_] rest ?_
    rw [value_loadContent_singleton, value_loadContent_singleton, value_inclusion hr,
      value_inclusion hr] at hsame ⊢
    revert hsame
    rcases meant s base (targetOf attributes) with e | _ | ⟨fetched, t | ⟨root, rootAttributes, included⟩⟩
    · exact id
    · simp only [firstFallback?_append]
      cases firstFallback? before with
      | some instead => exact id
      | none =>
        by_cases hc : (roleOf child == .fallback) = true
        · simp only [firstFallback?, Option.none_or, hc, if_true]
          exact fun _ => inner hs
        · simp only [firstFallback?, Option.none_or, hc]
          exact id
    · exact id
    · exact id

theorem Unfetched.meant_eq {attributes : List (Xml.Name × String)}
    (h : Unfetched (·.kind = .resourceUnavailable) s base attributes) : meant s base (targetOf attributes) = .ok none := by
  obtain ⟨ht, tried, hc, hn⟩ := h
  exact meant_eq_none_iff.mpr ⟨ht, tried, hc, hn⟩

theorem Spliced.below_value (h : Spliced (Unfetched (·.kind = .resourceUnavailable) s base) xs ys) (calls : Nat) :
    Below (loadContent s calls base xs).value (loadContent s calls base ys).value := by
  have hfallback : ∀ {calls name attributes content instead}, roleOf name = .inclusion →
      Unfetched (·.kind = .resourceUnavailable) s base attributes → firstFallback? content = some instead →
        Below (loadContent s (calls + 1) base [.element name attributes content]).value
          (loadContent s (calls + 1) base instead).value := by
    intro calls name attributes content instead hr hu hf
    rw [value_loadContent_fallback hr hu.meant_eq hf]
    exact below_loadContent s (by omega) base instead
  induction calls using loadContent.induct generalizing xs ys with
  | case1 => exact .refl _
  | case2 ih =>
    exact h.related .refl .chain (fun _ => .refl _) (below_loadContent s (Nat.zero_le 1) base) hfallback ih ih
  | case3 calls ihn ihi =>
    exact h.related .refl .chain (fun _ => .refl _) (below_loadContent s (Nat.le_succ _) base) hfallback ihn ihi

theorem Spliced.below_value_back (h : Spliced (Unfetched (·.kind = .resourceUnavailable) s base) xs ys) (calls : Nat) :
    Below (loadContent s calls base ys).value (loadContent s (calls + 2) base xs).value := by
  have hfallback : ∀ {calls name attributes content instead}, roleOf name = .inclusion →
      Unfetched (·.kind = .resourceUnavailable) s base attributes → firstFallback? content = some instead →
        Below (loadContent s (calls + 1) base instead).value
          (loadContent s (calls + 3) base [.element name attributes content]).value := by
    intro calls name attributes content instead hr hu hf
    rw [value_loadContent_fallback hr hu.meant_eq hf]
    exact .refl _
  have hle : ∀ {calls calls'} (_ : calls ≤ calls') (ns : List Xml.Node),
      Below (loadContent s calls base ns).value (loadContent s calls' base ns).value :=
    fun hc => below_loadContent s hc base
  induction calls using loadContent.induct generalizing xs ys with
  | case1 => exact .tooDeep _
  | case2 ih =>
    exact h.related (R := fun x y => Below y x) .refl .chain (hle (by omega)) (hle (by omega)) hfallback ih
      fun _ => .tooDeep _
  | case3 calls ihn ihi =>
    exact h.related (R := fun x y => Below y x) .refl .chain (hle (by omega)) (hle (by omega)) hfallback ihn ihi

theorem Spliced.value_loadContent_eq_ok {p : Error → Prop} (h : Spliced (Unfetched p s base) xs ys) {calls : Nat}
    {ps : List Declared} (hx : (loadContent s calls base xs).value = .ok ps) :
    (loadContent s calls base ys).value = .ok ps := by
  let R (x y : Walked) : Prop := ∀ ps, x = .ok ps → y = .ok ps
  have hchain : ∀ {x x' y y'}, R x x' → R y y' → R (chain x y) (chain x' y') := by
    intro x x' y y' hx hy ps h
    obtain ⟨qs, rs, h₁, h₂, rfl⟩ := chain_eq_ok_iff.mp h
    rw [hx qs h₁, hy rs h₂]
    rfl
  have hle : ∀ {calls calls'} (_ : calls ≤ calls') (ns : List Xml.Node),
      R (loadContent s calls base ns).value (loadContent s calls' base ns).value :=
    fun hc ns ps h => (below_loadContent s hc base ns (by simp [h])).trans h
  have hfallback : ∀ {calls name attributes content instead}, roleOf name = .inclusion →
      Unfetched p s base attributes → firstFallback? content = some instead →
        R (loadContent s (calls + 1) base [.element name attributes content]).value
          (loadContent s (calls + 1) base instead).value := by
    rintro calls name attributes content instead hr ⟨ht, tried, hc, hn⟩ hf ps h
    rcases hm : meant s base (targetOf attributes) with e | _ | ⟨fetched, root⟩
    · rw [(Turns.fails hr (.inl hm)).value_loadContent] at h
      cases h
    · rw [value_loadContent_fallback hr hm hf] at h
      exact hle (by omega) instead ps h
    · obtain ⟨-, tried', r, hc', hfirst, -⟩ := meant_eq_some_iff.mp hm
      obtain ⟨before, after, rfl, -, hfetch⟩ := firstFetched_eq_some_iff.mp hfirst
      cases hc.symm.trans hc'
      obtain ⟨e, he, -⟩ := hn r (by simp)
      cases hfetch.symm.trans he
  induction calls using loadContent.induct generalizing xs ys ps with
  | case1 => cases hx
  | case2 ih =>
    exact h.related (R := R) (fun _ _ h => h) hchain (fun _ _ h => h) (hle (by omega)) hfallback
      (fun h _ hx => ih h hx) (fun h _ hx => ih h hx) ps hx
  | case3 calls ihn ihi =>
    exact h.related (R := R) (fun _ _ h => h) hchain (fun _ _ h => h) (hle (by omega)) hfallback
      (fun h _ hx => ihn h hx) (fun h _ hx => ihi h hx) ps hx

/-- Nesting is splicing. A walk that ends does so in one way. Over content behind other content it declares what both
declare, one behind the other, and it fails as the first element does that fails. To replace a nested configuration
by its content changes nothing, nor to replace an inclusion by the content of its first fallback if none of its
candidates is available; if none can be fetched for any other reason, what is declared stays the same. An inclusion
of a document that can be fetched is walked as the content of its root, from the base of that document; the document
beside the one it stands in is tried before one is searched for by its name. So a walk declares what the property
elements declare that it comes to, each once and in their order, with a name and trimmed texts. -/
theorem nesting_is_splicing (s : Surroundings) :
    (∀ base xs x y, Walk s base xs x → Walk s base xs y → x = y) ∧
    (∀ base xs ys ps, Walk s base (xs ++ ys) (.ok ps) ↔
      ∃ qs rs, Walk s base xs (.ok qs) ∧ Walk s base ys (.ok rs) ∧ ps = qs ++ rs) ∧
    (∀ base xs e, Walk s base xs (.error e) ↔
      ∃ before n after, xs = before ++ n :: after ∧ (∃ ps, Walk s base before (.ok ps)) ∧ Walk s base [n] (.error e)) ∧
    (∀ base xs ys, Spliced (Unfetched (·.kind = .resourceUnavailable) s base) xs ys →
      ∀ x, Walk s base ys x ↔ Walk s base xs x) ∧
    (∀ base xs ys, Spliced (Unfetched (fun _ => True) s base) xs ys →
      ∀ ps, Walk s base xs (.ok ps) → Walk s base ys (.ok ps)) ∧
    (∀ r fetched attributes xs, r.fetch s.resolver s.world = .ok fetched →
      tree s r.sourceName fetched = .ok (.element (Xml.Name.plain "configuration") attributes xs) →
        ((load s r).value ≠ .error .nestingTooDeep → Walk s fetched.base xs (load s r).value) ∧
        ∀ r' fetched' attributes' ys, r'.fetch s.resolver s.world = .ok fetched' →
          tree s r'.sourceName fetched' = .ok (.element (Xml.Name.plain "configuration") attributes' ys) →
          fetched'.base = fetched.base →
            (Spliced (Unfetched (·.kind = .resourceUnavailable) s fetched.base) xs ys →
              ((load s r).value ≠ .error .nestingTooDeep → (load s r').value = (load s r).value) ∧
              ∀ room, (loadWithin s room r').value ≠ .error .nestingTooDeep →
                (loadWithin s (room + 2) r).value = (loadWithin s room r').value) ∧
            (Spliced (Unfetched (fun _ => True) s fetched.base) xs ys →
              ∀ ps, (load s r).value = .ok ps → (load s r').value = .ok ps)) ∧
    (∀ base name attributes content before r after fetched root, roleOf name = .inclusion →
      targetOf attributes ≠ "" →
      candidates s.world.files.home (targetOf attributes) base = .ok (before ++ r :: after) →
      (∀ q ∈ before, Unavailable s q) → r.fetch s.resolver s.world = .ok fetched →
      tree s r.sourceName fetched = .ok root →
        ∃ rootName rootAttributes included, root = .element rootName rootAttributes included ∧
          ∀ x, Walk s base [.element name attributes content] x ↔ Walk s fetched.base included x) ∧
    (∀ home target base, Url.isLocator target = false → (Path.parse target).isAbsolute = false → base ≠ "" →
      candidates home target (some base) =
        (beside home base target).map fun near => [near, .ofName target false]) ∧
    (∀ base ns ps, Walk s base ns (.ok ps) ↔
      ∃ es, Elements s base ns es ∧ ps = es.filterMap PropertyElement.declared?) ∧
    ∀ r ps, (load s r).value = .ok ps → ∀ p ∈ ps, p.name ≠ "" ∧ Text.trim p.name = p.name ∧
      (∀ value, p.value = some value → Text.trim value = value) ∧
      ∀ source ∈ p.sources, Text.trim source = source := by
  refine ⟨fun base xs x y hx hy => hx.unique hy, fun base xs ys ps => Walk.append_ok_iff, fun base xs e => Walk.error_iff,
    fun base xs ys h x => ⟨.of_below fun calls => ⟨calls + 2, h.below_value_back calls⟩,
      .of_below fun calls => ⟨calls, h.below_value calls⟩⟩, fun base xs ys h ps => ?_,
    fun r fetched attributes xs hf ht => ⟨fun hn => ?_, fun r' fetched' attributes' ys hf' ht' hb => ⟨fun h => ⟨?_, ?_⟩,
      fun h ps hp => ?_⟩⟩, fun base name attributes content before r after fetched root hr ht hc hb hf hroot => ?_,
    fun home target base hl ha hb => candidates_of_relative home hl ha hb, fun base ns ps => walk_ok_iff,
    fun r ps h p hp => ?_⟩
  · rintro ⟨hn, calls, hd⟩
    exact ⟨hn, calls, h.value_loadContent_eq_ok hd⟩
  · exact .of_loadContent (value_loadWithin hf ht).symm hn
  · rw [load, load, value_loadWithin hf ht, value_loadWithin hf' ht', hb]
    exact h.below_value _
  · intro room
    rw [value_loadWithin hf ht, value_loadWithin hf' ht', hb]
    exact h.below_value_back _
  · rw [load, value_loadWithin hf ht] at hp
    rw [load, value_loadWithin hf' ht', hb]
    exact h.value_loadContent_eq_ok hp
  · have hm : meant s base (targetOf attributes) = .ok (some (fetched, root)) :=
      meant_eq_some_iff.mpr ⟨ht, _, r, hc, firstFetched_eq_some_iff.mpr ⟨before, after, rfl, hb, hf⟩, hroot⟩
    obtain ⟨rootName, rootAttributes, included, rfl⟩ := exists_root_of_meant hm
    exact ⟨rootName, rootAttributes, included, rfl, fun x => Walk.included_iff hr hm⟩
  · obtain ⟨⟨hne, hn⟩, hv, hs⟩ := isTrimmed_of_load h hp
    exact ⟨hne, hn, hv, hs⟩

/-- A property inside a configuration, one in the fallback of an inclusion that is not available, and one in a
document that is included are declared in their order. -/
theorem nesting_is_splicing_mixed :
    let content := Utf8.encode "<configuration><property name='c' value='3'/></configuration>".toList
    let s : Surroundings := ⟨.fixed ∅, ⟨⟨Path.parse "/", [(["c.xml"], .file content FileTree.standardMode)]⟩, ∅, ∅, 1⟩⟩
    let property (name value : String) : Xml.Node :=
      .element (.plain "property") [(.plain "name", name), (.plain "value", value)] []
    let inclusion (target : String) (content : List Xml.Node) : Xml.Node :=
      .element ⟨inclusionSpace, "include"⟩ [(.plain "href", target)] content
    let missing := inclusion "m.xml" [.element ⟨inclusionSpace, "fallback"⟩ [] [property " b" " 2 "]]
    let nested : List Xml.Node := [.element (.plain "configuration") [] [property "a" "1"], missing]
    let flat : List Xml.Node := [property "a" "1", property " b" " 2 "]
    let ps : List Declared := [⟨"a", some "1", false, []⟩, ⟨"b", some "2", false, []⟩]
    let base := some "/main.xml"
    let outer : Resource := .stream (.text "<configuration><configuration/></configuration>") "here"
    let plain : Resource := .stream (.text "<configuration/>") "here"
    let third : Declared := ⟨"c", some "3", false, []⟩
    (∀ x, Walk s base (nested ++ [inclusion "c.xml" []]) x ↔ x = .ok (ps ++ [third])) ∧
      Walk s base flat (.ok ps) ∧ (load s plain).value = (load s outer).value ∧
      (load s (.file (Path.parse "/c.xml"))).value = .ok [third] ∧ Text.trim third.name = third.name := by
  intro content s property inclusion missing nested flat ps base outer plain third
  let spliced : List Xml.Node := [property "a" "1", missing]
  obtain ⟨hunique, happend, -, hsplice, hok, hload, hincluded, hcandidates, helements, htrimmed⟩ :=
    nesting_is_splicing s
  have hu : ∀ p : Error → Prop, p (.unreadableFile "/m.xml" .missing) → p (.resourceNotFound "m.xml") →
      Unfetched p s base [(.plain "href", "m.xml")] := by
    refine fun p h h' => ⟨by decide, [.file (Path.parse "/m.xml"), .named "m.xml" false],
      Traced.eq_ok_of_toOption (by decide +kernel), ?_⟩
    simp only [List.forall_mem_cons]
    exact ⟨⟨_, rfl, h⟩, ⟨_, rfl, h'⟩, by simp⟩
  have hf : ∀ p, Unfetched p s base [(.plain "href", "m.xml")] → Spliced (Unfetched p s base) spliced flat :=
    fun p hu => .behind _ (.fallback _ [property " b" " 2 "] [] rfl hu rfl)
  have hn : Spliced (Unfetched (·.kind = .resourceUnavailable) s base) nested spliced :=
    .configuration [] [property "a" "1"] [missing] rfl
  have hflat : Walk s base flat (.ok ps) := by
    refine (helements base flat ps).mpr ⟨_, .append (.property base _ [] rfl) (.property base _ [] rfl), ?_⟩
    decide +kernel
  have hspliced : Walk s base spliced (.ok ps) := (hsplice base spliced flat (hf _ (hu _ rfl rfl)) _).mp hflat
  have hnested : Walk s base nested (.ok ps) := (hsplice base nested spliced hn _).mp hspliced
  have hc : Walk s base [inclusion "c.xml" []] (.ok [third]) := by
    have htried : candidates s.world.files.home "c.xml" base =
        .ok ([] ++ .file (Path.parse "/c.xml") :: [.named "c.xml" false]) :=
      (hcandidates _ "c.xml" "/main.xml" (by decide +kernel) (by decide +kernel) (by decide)).trans
        (Traced.eq_ok_of_toOption (by decide +kernel))
    have hfetch : (Resource.file (Path.parse "/c.xml")).fetch s.resolver s.world = .ok ⟨content, some "/c.xml", none⟩ :=
      Traced.eq_ok_of_toOption (by decide +kernel)
    have htree : tree s "/c.xml" ⟨content, some "/c.xml", none⟩ =
        .ok (.element (.plain "configuration") [] [property "c" "3"]) :=
      Traced.eq_ok_of_toOption (by decide +kernel)
    obtain ⟨_, _, _, hroot, hw⟩ := hincluded base ⟨inclusionSpace, "include"⟩ [(.plain "href", "c.xml")] [] [] _ _ _ _
      rfl (by decide) htried (by simp) hfetch htree
    cases hroot
    refine (hw _).mpr ((helements _ _ _).mpr ⟨_, .property _ _ [] rfl, ?_⟩)
    decide +kernel
  let utf8 (text : String) : Fetched := ⟨Utf8.encode text.toList, none, some "utf-8"⟩
  have houter : tree s "here" (utf8 "<configuration><configuration/></configuration>") =
      .ok (.element (.plain "configuration") [] [.element (.plain "configuration") [] []]) :=
    Traced.eq_ok_of_toOption (by decide +kernel)
  have hplain : tree s "here" (utf8 "<configuration/>") = .ok (.element (.plain "configuration") [] []) :=
    Traced.eq_ok_of_toOption (by decide +kernel)
  have hall : Walk s base (nested ++ [inclusion "c.xml" []]) (.ok (ps ++ [third])) :=
    (happend _ _ _ _).mpr ⟨_, _, hnested, hc, rfl⟩
  have hthird : (load s (.file (Path.parse "/c.xml"))).value = .ok [third] :=
    Traced.eq_ok_of_toOption (by decide +kernel)
  refine ⟨fun x => ⟨fun h => hunique _ _ _ _ h hall, fun h => h ▸ hall⟩,
    hok base spliced flat (hf _ (hu _ trivial trivial)) ps hspliced, ?_, hthird,
    (htrimmed _ _ hthird third (List.mem_singleton_self _)).2.1⟩
  obtain ⟨hsame, -⟩ := ((hload outer _ _ _ rfl houter).2 plain _ _ _ rfl hplain rfl).1 (.configuration [] [] [] rfl)
  refine hsame fun hn => ?_
  rw [show (load s outer).value = .ok [] from Traced.eq_ok_of_toOption (by decide +kernel)] at hn
  cases hn

end Loader
end ConfigLayers
