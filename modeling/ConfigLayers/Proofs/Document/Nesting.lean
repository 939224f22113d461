import ConfigLayers.Proofs.Document.Faults
import ConfigLayers.Proofs.Document.Walk

/-! Documents that are opened inside one another. A walk goes to the next element only when the one before has been
walked to its end, so what it comes to depends on what stands before. It fails where it comes to an inclusion that
fails, and it ends exactly if there is a bound to how many documents are opened inside one another. -/
namespace ConfigLayers
namespace Loader

variable {s : Surroundings} {base : Option String} {ns : List Xml.Node}

/-- A walk over some content comes to an inclusion, with its attributes and what is in it. -/
inductive Meets (s : Surroundings) (base : Option String) :
    List Xml.Node → List (Xml.Name × String) → List Xml.Node → Prop where
  | here {name : Xml.Name} (attributes : List (Xml.Name × String)) (content rest : List Xml.Node) :
      roleOf name = .inclusion → Meets s base (.element name attributes content :: rest) attributes content
  | behind {n : Xml.Node} {rest : List Xml.Node} {as : List (Xml.Name × String)} {inside : List Xml.Node} :
      (∃ ps, Walk s base [n] (.ok ps)) → Meets s base rest as inside → Meets s base (n :: rest) as inside
  | configuration {name : Xml.Name} (attributes : List (Xml.Name × String)) {content : List Xml.Node}
      (rest : List Xml.Node) {as : List (Xml.Name × String)} {inside : List Xml.Node} :
      roleOf name = .configuration → Meets s base content as inside →
        Meets s base (.element name attributes content :: rest) as inside
  | fallback {name : Xml.Name} {attributes : List (Xml.Name × String)} {content instead : List Xml.Node}
      (rest : List Xml.Node) {as : List (Xml.Name × String)} {inside : List Xml.Node} :
      roleOf name = .inclusion → meant s base (targetOf attributes) = .ok none →
      firstFallback? content = some instead → Meets s base instead as inside →
        Meets s base (.element name attributes content :: rest) as inside

/-- A target means the document of a resource, which is fetched and has some content in its root. -/
structure Means (s : Surroundings) (base : Option String) (target : String) (r : Resource) (fetched : Fetched)
    (included : List Xml.Node) : Prop where
  given : target ≠ ""
  tried : ∃ tried, candidates s.world.files.home target base = .ok tried ∧
    firstFetched s tried = .ok (some (r, fetched))
  root : ∃ name attributes, tree s r.sourceName fetched = .ok (.element name attributes included)

theorem Means.meant_eq {target : String} {r : Resource} {fetched : Fetched} {included : List Xml.Node}
    (h : Means s base target r fetched included) :
    ∃ name attributes, meant s base target = .ok (some (fetched, .element name attributes included)) := by
  obtain ⟨ht, ⟨tried, hc, hf⟩, name, attributes, hroot⟩ := h
  exact ⟨name, attributes, meant_eq_some_iff.mpr ⟨ht, tried, r, hc, hf, hroot⟩⟩

theorem exists_means {target : String} {fetched : Fetched} {name : Xml.Name} {attributes : List (Xml.Name × String)}
    {included : List Xml.Node} (h : meant s base target = .ok (some (fetched, .element name attributes included))) :
    ∃ r, Means s base target r fetched included := by
  obtain ⟨ht, tried, r, hc, hf, hroot⟩ := meant_eq_some_iff.mp h
  exact ⟨r, ht, ⟨tried, hc, hf⟩, name, attributes, hroot⟩

def Opens (s : Surroundings) (base : Option String) (ns : List Xml.Node) (r : Resource) (fetched : Fetched)
    (included : List Xml.Node) : Prop :=
  ∃ attributes content, Meets s base ns attributes content ∧ Means s base (targetOf attributes) r fetched included

/-- The documents of some resources are opened inside one another, the first in some content; the last has the base
and the content given behind them. -/
inductive Nests (s : Surroundings) :
    Option String → List Xml.Node → List Resource → Option String → List Xml.Node → Prop where
  | nil (base : Option String) (ns : List Xml.Node) : Nests s base ns [] base ns
  | cons {base : Option String} {ns : List Xml.Node} {r : Resource} {fetched : Fetched} {included : List Xml.Node}
      {rs : List Resource} {last : Option String} {innermost : List Xml.Node} :
      Opens s base ns r fetched included → Nests s fetched.base included rs last innermost →
        Nests s base ns (r :: rs) last innermost

theorem Fails.cases {attributes : List (Xml.Name × String)} {content : List Xml.Node} {e : Error}
    (h : Fails s base attributes content e) : e.IsOfDocument ∨ Misaddressed s base (targetOf attributes) e := by
  rcases h with h | ⟨-, -, rfl⟩
  · exact (failsAs_meant s base _ e h).imp_left .inr
  · exact .inl (.inl rfl)

theorem Fails.ne_nestingTooDeep {attributes : List (Xml.Name × String)} {content : List Xml.Node} {e : Error}
    (h : Fails s base attributes content e) : e ≠ .nestingTooDeep := by
  rintro rfl
  rcases h.cases with (h | h) | ⟨h, -⟩
  · cases h
  · cases h
  · exact h.ne_nestingTooDeep rfl

theorem Meets.head {n : Xml.Node} {as : List (Xml.Name × String)} {inside : List Xml.Node}
    (h : Meets s base [n] as inside) (rest : List Xml.Node) : Meets s base (n :: rest) as inside := by
  cases h with
  | here _ _ _ hr => exact .here _ _ rest hr
  | behind _ h => cases h
  | configuration _ _ hr h => exact .configuration _ rest hr h
  | fallback _ hr hm hf h => exact .fallback rest hr hm hf h

theorem Meets.behind_all {before : List Xml.Node} {ps : List Declared} (hb : Walk s base before (.ok ps)) {n : Xml.Node}
    {as : List (Xml.Name × String)} {inside : List Xml.Node} (h : Meets s base [n] as inside) (after : List Xml.Node) :
    Meets s base (before ++ n :: after) as inside := by
  induction before generalizing ps with
  | nil => exact h.head after
  | cons m before ih =>
    obtain ⟨qs, rs, hm, hb, -⟩ := Walk.append_ok_iff.mp (show Walk s base ([m] ++ before) (.ok ps) from hb)
    exact .behind ⟨qs, hm⟩ (ih hb)

/-- A document that is the only one included is the one that is opened. -/
theorem Opens.eq_of_inclusion {name : Xml.Name} {as : List (Xml.Name × String)} {inside : List Xml.Node}
    (hr : roleOf name = .inclusion) {only : Fetched} {root : Xml.Name} {rootAttributes : List (Xml.Name × String)}
    {content : List Xml.Node}
    (hm : meant s base (targetOf as) = .ok (some (only, .element root rootAttributes content))) {r : Resource}
    {fetched : Fetched} {included : List Xml.Node} (h : Opens s base [.element name as inside] r fetched included) :
    fetched = only ∧ included = content := by
  obtain ⟨_, _, hmeets, hmeans⟩ := h
  cases hmeets with
  | here =>
    obtain ⟨_, _, h⟩ := hmeans.meant_eq
    cases hm.symm.trans h
    exact ⟨rfl, rfl⟩
  | behind _ h => cases h
  | configuration _ _ hc => cases hr.symm.trans hc
  | fallback _ _ hn => cases hm.symm.trans hn

theorem Nests.trans {b c : Option String} {ms ls : List Xml.Node} {rs qs : List Resource} (h : Nests s base ns rs b ms)
    (h' : Nests s b ms qs c ls) : Nests s base ns (rs ++ qs) c ls := by
  induction h with
  | nil => exact h'
  | cons ho _ ih => exact .cons ho (ih h')

theorem Nests.take {b : Option String} {ms : List Xml.Node} {rs : List Resource} (h : Nests s base ns rs b ms)
    (k : Nat) : ∃ c ls, Nests s base ns (rs.take k) c ls := by
  induction h generalizing k with
  | nil base ns => exact ⟨base, ns, by simpa using .nil base ns⟩
  | cons ho _ ih =>
    cases k with
    | zero => exact ⟨_, _, .nil _ _⟩
    | succ k =>
      obtain ⟨c, ls, h⟩ := ih k
      exact ⟨c, ls, .cons ho h⟩

theorem Nests.exists_of_loop {b : Option String} {ms : List Xml.Node} {rs qs : List Resource}
    (h : Nests s base ns rs b ms) (hl : Nests s b ms qs b ms) (hq : qs ≠ []) (depth : Nat) :
    ∃ rs b ms, Nests s base ns rs b ms ∧ rs.length = depth := by
  have hr : ∀ k, ∃ ps, Nests s b ms ps b ms ∧ k ≤ ps.length := by
    intro k
    induction k with
    | zero => exact ⟨[], .nil b ms, Nat.zero_le _⟩
    | succ k ih =>
      obtain ⟨ps, hp, hk⟩ := ih
      have hpos : 0 < qs.length := List.length_pos_iff.mpr hq
      refine ⟨qs ++ ps, hl.trans hp, ?_⟩
      rw [List.length_append]
      omega
  obtain ⟨ps, hp, hk⟩ := hr depth
  obtain ⟨c, ls, hn⟩ := (h.trans hp).take depth
  refine ⟨_, c, ls, hn, ?_⟩
  rw [List.length_take, List.length_append]
  omega

/-- Where a walk comes to an inclusion, it fails as the inclusion does. -/
theorem Meets.ends {as : List (Xml.Name × String)} {inside : List Xml.Node} (h : Meets s base ns as inside) :
    ∃ name, roleOf name = .inclusion ∧
      (∀ e, Walk s base [.element name as inside] (.error e) → Walk s base ns (.error e)) ∧
      ∀ calls, (loadContent s calls base [.element name as inside]).value = .error .nestingTooDeep →
        (loadContent s calls base ns).value = .error .nestingTooDeep := by
  have hhead : ∀ n rest calls, (loadContent s calls base [n]).value = .error .nestingTooDeep →
      (loadContent s calls base (n :: rest)).value = .error .nestingTooDeep := by
    intro n rest calls hn
    rw [← List.singleton_append, value_loadContent_append, hn, chain_error]
  induction h with
  | here as inside rest hr => exact ⟨_, hr, fun e he => he.append_error rest, fun calls => hhead _ rest calls⟩
  | @behind n rest as inside hw _ ih =>
    obtain ⟨ps, hn⟩ := hw
    obtain ⟨name, hr, he, hd⟩ := ih
    refine ⟨name, hr, fun e hi => hn.append (he e hi), fun calls hi => ?_⟩
    rw [← List.singleton_append, value_loadContent_append, hd calls hi]
    rcases hn.value_eq_or calls with h | h <;> rw [h] <;> rfl
  | configuration attributes rest hc _ ih =>
    obtain ⟨name, hr, he, hd⟩ := ih
    refine ⟨name, hr, fun e hi => ((Walk.configuration_iff hc).mpr (he e hi)).append_error rest, fun calls hi => ?_⟩
    refine hhead _ rest calls ?_
    cases calls with
    | zero => rfl
    | succ calls =>
      rw [value_loadContent_configuration hc]
      exact hd calls (tooDeep_of_le (Nat.le_succ calls) hi)
  | fallback rest hc hm hf _ ih =>
    obtain ⟨name, hr, he, hd⟩ := ih
    refine ⟨name, hr, fun e hi => ((Walk.fallback_iff hc hm hf).mpr (he e hi)).append_error rest, fun calls hi => ?_⟩
    refine hhead _ rest calls ?_
    cases calls with
    | zero => rfl
    | succ calls =>
      rw [value_loadContent_fallback hc hm hf]
      exact hd (calls - 1) (tooDeep_of_le (by omega) hi)

theorem Nests.tooDeep {rs : List Resource} {b : Option String} {ms : List Xml.Node} (h : Nests s base ns rs b ms)
    {calls : Nat} (hc : calls ≤ 2 * rs.length) : (loadContent s calls base ns).value = .error .nestingTooDeep := by
  induction h generalizing calls with
  | nil =>
    obtain rfl := Nat.le_zero.mp hc
    rfl
  | cons ho _ ih =>
    cases calls with
    | zero => rfl
    | succ calls =>
      obtain ⟨as, inside, hm, hmeans⟩ := ho
      obtain ⟨name, hr, -, hd⟩ := hm.ends
      obtain ⟨root, rootAttributes, hmeant⟩ := hmeans.meant_eq
      refine hd _ ?_
      rw [value_loadContent_included hr hmeant]
      rw [List.length_cons] at hc
      exact ih (by omega)

/-- A walk fails in one of the documents opened inside one another, at an inclusion that it comes to. -/
def FailsIn (s : Surroundings) (base : Option String) (ns : List Xml.Node) (e : Error) : Prop :=
  ∃ rs b ms as inside, Nests s base ns rs b ms ∧ Meets s b ms as inside ∧ Fails s b as inside e

theorem FailsIn.mono {ms : List Xml.Node} {e : Error} (h : FailsIn s base ns e)
    (hm : ∀ as inside, Meets s base ns as inside → Meets s base ms as inside) : FailsIn s base ms e := by
  obtain ⟨rs, b, ls, as, inside, hn, hmeets, hf⟩ := h
  cases hn with
  | nil => exact ⟨[], base, ms, as, inside, .nil base ms, hm as inside hmeets, hf⟩
  | cons ho hn =>
    obtain ⟨as', inside', hmeets', hmeans⟩ := ho
    exact ⟨_, b, ls, as, inside, .cons ⟨as', inside', hm as' inside' hmeets', hmeans⟩ hn, hmeets, hf⟩

theorem failsIn_loadNode {nested inner : Walker} {e : Error}
    (hn : ∀ base content, (nested base content).value = .error e → FailsIn s base content e)
    (hi : ∀ base content, (inner base content).value = .error e → FailsIn s base content e) {n : Xml.Node}
    (h : (loadNode s nested inner base n).value = .error e) : FailsIn s base [n] e := by
  obtain ⟨t, ht⟩ := exists_turn s base n
  rw [ht.value_loadNode] at h
  cases ht with
  | passed | property => cases h
  | configuration attributes content hr => exact (hn base content h).mono fun _ _ => .configuration attributes [] hr
  | included content hr hmeant =>
    obtain ⟨r, hmeans⟩ := exists_means hmeant
    obtain ⟨rs, b, ms, as, inside, hnests, hmeets, hf⟩ := hi _ _ h
    exact ⟨r :: rs, b, ms, as, inside, .cons ⟨_, content, .here _ _ [] hr, hmeans⟩ hnests, hmeets, hf⟩
  | fallback hr hmeant hf => exact (hi base _ h).mono fun _ _ => .fallback [] hr hmeant hf
  | fails hr hf =>
    cases h
    exact ⟨[], base, _, _, _, .nil base _, .here _ _ [] hr, hf⟩

theorem failsIn_loadContent {e : Error} (he : e ≠ .nestingTooDeep) {calls : Nat}
    (h : (loadContent s calls base ns).value = .error e) : FailsIn s base ns e := by
  induction calls using Nat.strongRecOn generalizing base ns with
  | ind calls ih =>
    cases calls with
    | zero => exact (he (Except.error.inj h).symm).elim
    | succ calls =>
      have hnodes := h
      rw [loadContent_succ] at hnodes
      obtain ⟨before, n, after, rfl, ⟨ps, hb⟩, hn⟩ := value_loadNodes_eq_error hnodes
      have hbefore : Walk s base before (.ok ps) := ⟨by simp, calls + 1, by rw [loadContent_succ, hb]⟩
      have hin : FailsIn s base [n] e :=
        failsIn_loadNode (fun _ _ => ih calls (by omega)) (fun _ _ => ih (calls - 1) (by omega)) hn
      exact hin.mono fun _ _ hm => hm.behind_all hbefore after

theorem Walk.error_iff_fails {e : Error} : Walk s base ns (.error e) ↔ FailsIn s base ns e := by
  constructor
  · rintro ⟨he, calls, h⟩
    exact failsIn_loadContent (fun hn => he (congrArg _ hn)) h
  · rintro ⟨rs, b, ms, as, inside, hn, hm, hf⟩
    induction hn with
    | nil base ns =>
      obtain ⟨name, hr, he, -⟩ := hm.ends
      exact he e ⟨fun h => hf.ne_nestingTooDeep (Except.error.inj h), 1, (Turns.fails hr hf).value_loadContent 0⟩
    | cons ho _ ih =>
      obtain ⟨as, inside, hmeets, hmeans⟩ := ho
      obtain ⟨name, hr, he, -⟩ := hmeets.ends
      obtain ⟨root, rootAttributes, hmeant⟩ := hmeans.meant_eq
      exact he e ((Walk.included_iff hr hmeant).mpr (ih hm hf))

theorem sizeOf_firstFallback? {instead : List Xml.Node} (h : firstFallback? ns = some instead) :
    sizeOf instead < sizeOf ns := by
  induction ns with
  | nil => cases h
  | cons n rest ih =>
    cases n with
    | text t =>
      rw [firstFallback?] at h
      have := ih h
      simp only [List.cons.sizeOf_spec]
      omega
    | element name attributes content =>
      rw [firstFallback?] at h
      split at h
      · cases h
        simp only [List.cons.sizeOf_spec, Xml.Node.element.sizeOf_spec]
        omega
      · have := ih h
        simp only [List.cons.sizeOf_spec]
        omega

theorem exists_walk_of_opens (h : ∀ r fetched included, Opens s base ns r fetched included →
    ∃ x, Walk s fetched.base included x) : ∃ x, Walk s base ns x := by
  induction hsize : sizeOf ns using Nat.strongRecOn generalizing ns with
  | ind size ih =>
    subst hsize
    have hpart : ∀ ms, sizeOf ms < sizeOf ns →
        (∀ as inside, Meets s base ms as inside → Meets s base ns as inside) → ∃ x, Walk s base ms x :=
      fun ms hlt hm => ih _ hlt (fun r fetched included ⟨as, inside, hmeets, hmeans⟩ =>
        h r fetched included ⟨as, inside, hm as inside hmeets, hmeans⟩) rfl
    cases ns with
    | nil => exact ⟨_, .nil⟩
    | cons n rest =>
      have hn : ∃ x, Walk s base [n] x := by
        obtain ⟨t, ht⟩ := exists_turn s base n
        cases ht with
        | passed hp => exact ⟨_, .passed hp⟩
        | property attributes content hr => exact ⟨_, .property hr⟩
        | configuration attributes content hr =>
          obtain ⟨x, hx⟩ := hpart content
            (by simp only [List.cons.sizeOf_spec, Xml.Node.element.sizeOf_spec]; omega)
            fun _ _ => .configuration attributes rest hr
          exact ⟨x, (Walk.configuration_iff hr).mpr hx⟩
        | included content hr hmeant =>
          obtain ⟨r, hmeans⟩ := exists_means hmeant
          obtain ⟨x, hx⟩ := h r _ _ ⟨_, content, .here _ _ rest hr, hmeans⟩
          exact ⟨x, (Walk.included_iff hr hmeant).mpr hx⟩
        | fallback hr hmeant hf =>
          have hlt := sizeOf_firstFallback? hf
          obtain ⟨x, hx⟩ := hpart _
            (by simp only [List.cons.sizeOf_spec, Xml.Node.element.sizeOf_spec]; omega)
            fun _ _ => .fallback rest hr hmeant hf
          exact ⟨x, (Walk.fallback_iff hr hmeant hf).mpr hx⟩
        | fails hr hf =>
          exact ⟨_, Walk.error_iff_fails.mpr ⟨[], base, _, _, _, .nil base _, .here _ _ [] hr, hf⟩⟩
      obtain ⟨x, hx⟩ := hn
      cases x with
      | error e => exact ⟨_, hx.append_error rest⟩
      | ok ps =>
        obtain ⟨y, hy⟩ := hpart rest (by simp only [List.cons.sizeOf_spec]; omega) fun _ _ => .behind ⟨ps, hx⟩
        exact ⟨_, hx.append hy⟩

theorem exists_walk_iff :
    (∃ x, Walk s base ns x) ↔ ∃ n, ∀ rs last innermost, Nests s base ns rs last innermost → rs.length ≤ n := by
  constructor
  · rintro ⟨x, hx, calls, rfl⟩
    refine ⟨calls, fun rs last innermost h => Nat.le_of_not_lt fun hlt => hx (h.tooDeep ?_)⟩
    omega
  · rintro ⟨n, hn⟩
    induction n generalizing base ns with
    | zero =>
      refine exists_walk_of_opens fun r fetched included ho => ?_
      cases hn _ _ _ (.cons ho (.nil _ _))
    | succ n ih =>
      refine exists_walk_of_opens fun r fetched included ho => ih fun rs last innermost h => ?_
      exact Nat.le_of_succ_le_succ (hn _ _ _ (.cons ho h))

end Loader
end ConfigLayers
