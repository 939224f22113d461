import ConfigLayers.Document.Loader
import ConfigLayers.Proofs.Xml.Root

/-! Which document an inclusion means: the first of its candidates that can be fetched, the one beside the
document that it stands in before the one to be searched for. -/
namespace ConfigLayers
namespace Loader

variable {s : Surroundings} {base : Option String} {target : String} {fetched : Fetched} {root : Xml.Node}

/-- A document that cannot be opened, so that another candidate may be tried. -/
def Unavailable (s : Surroundings) (r : Resource) : Prop :=
  ∃ e, r.fetch s.resolver s.world = .error e ∧ e.kind = .resourceUnavailable

theorem firstFetched_cons_of_unavailable {r : Resource} (h : Unavailable s r) (rest : List Resource) :
    firstFetched s (r :: rest) = firstFetched s rest := by
  obtain ⟨e, hf, he⟩ := h
  rw [firstFetched, hf]
  exact if_pos (beq_iff_eq.mpr he)

theorem firstFetched_eq_none_iff {tried : List Resource} :
    firstFetched s tried = .ok none ↔ ∀ r ∈ tried, Unavailable s r := by
  induction tried with
  | nil => simp [firstFetched]
  | cons r rest ih =>
    constructor
    · intro h
      have hr : Unavailable s r := by
        unfold firstFetched at h
        split at h
        · cases h
        · rename_i e he
          split at h
          · rename_i hk
            exact ⟨e, he, beq_iff_eq.mp hk⟩
          · cases h
      rw [firstFetched_cons_of_unavailable hr] at h
      exact List.forall_mem_cons.mpr ⟨hr, ih.mp h⟩
    · intro h
      obtain ⟨hr, hrest⟩ := List.forall_mem_cons.mp h
      rw [firstFetched_cons_of_unavailable hr, ih.mpr hrest]

theorem firstFetched_eq_some_iff {tried : List Resource} {r : Resource} :
    firstFetched s tried = .ok (some (r, fetched)) ↔
      ∃ before after, tried = before ++ r :: after ∧ (∀ q ∈ before, Unavailable s q) ∧
        r.fetch s.resolver s.world = .ok fetched := by
  constructor
  · intro h
    induction tried with
    | nil => cases h
    | cons q rest ih =>
      unfold firstFetched at h
      split at h
      · rename_i f hf
        cases h
        exact ⟨[], rest, rfl, fun _ hm => (List.not_mem_nil hm).elim, hf⟩
      · rename_i e he
        split at h
        · rename_i hk
          obtain ⟨before, after, rfl, hb, hf⟩ := ih h
          refine ⟨q :: before, after, rfl, List.forall_mem_cons.mpr ⟨⟨e, he, beq_iff_eq.mp hk⟩, hb⟩, hf⟩
        · cases h
  · rintro ⟨before, after, rfl, hb, hf⟩
    induction before with
    | nil =>
      rw [List.nil_append, firstFetched, hf]
    | cons q before ih =>
      obtain ⟨hq, hb⟩ := List.forall_mem_cons.mp hb
      rw [List.cons_append, firstFetched_cons_of_unavailable hq, ih hb]

/-- The candidate that a relative target means beside the document it stands in. -/
def beside (home : Path) (base target : String) : Except Error Resource :=
  if Url.isLocator base then Url.join base target >>= Resource.ofUri
  else .ok (.ofPath home ((Path.parse base).parent.join (Path.parse target)).text)

theorem candidates_of_relative (home : Path) {target base : String} (hl : Url.isLocator target = false)
    (ha : (Path.parse target).isAbsolute = false) (hb : base ≠ "") :
    candidates home target (some base) = (beside home base target).map fun near => [near, .ofName target false] := by
  unfold candidates beside
  simp only [hl, ha, Bool.false_eq_true, if_false]
  cases Url.isLocator base with
  | false => rfl
  | true =>
    simp only [if_true, bind, Except.bind]
    cases Url.join base target with
    | error e => rfl
    | ok uri =>
      dsimp only
      cases Resource.ofUri uri with
      | error e => rfl
      | ok near => rfl

theorem isLocator_of_isAbsolute (ha : (Path.parse target).isAbsolute = true) : Url.isLocator target = false := by
  have hr : Path.rootOf target.toList ≠ "" := by
    simpa [Path.isAbsolute, Path.parse] using ha
  have hslash : ∃ cs, target.toList = '/' :: cs := by
    cases hc : target.toList with
    | nil => exact (hr (by rw [hc]; rfl)).elim
    | cons c cs =>
      by_cases h : c = '/'
      · exact ⟨cs, by rw [h]⟩
      · exact (hr (by simp [hc, Path.rootOf, h])).elim
  obtain ⟨cs, hcs⟩ := hslash
  rw [Url.isLocator, hcs, Url.cut]
  rcases Url.cut ':' cs with _ | ⟨before, _ | ⟨c, after⟩⟩
  · rfl
  · rfl
  · simp only [show ('/' == ':') = false from rfl, Bool.false_eq_true, if_false, Option.map_some]
    split
    · rename_i h
      cases h
      rfl
    · rfl

theorem candidates_of_absolute (home : Path) (ha : (Path.parse target).isAbsolute = true) (base : Option String) :
    candidates home target base = .ok [.ofPath home target] := by
  simp only [candidates, isLocator_of_isAbsolute ha, ha, Bool.false_eq_true, if_false, if_true]
  rfl

/-- The target of an inclusion. -/
def targetOf (attributes : List (Xml.Name × String)) : String :=
  Text.trim ((Xml.attribute? attributes "href").getD "")

/-- The document that a target means, with its root; none if no candidate can be fetched. -/
def meant (s : Surroundings) (base : Option String) (target : String) :
    Except Error (Option (Fetched × Xml.Node)) :=
  if target = "" then .error .includeWithoutTarget
  else match candidates s.world.files.home target base with
    | .error e => .error e
    | .ok tried => match firstFetched s tried with
      | .error e => .error e
      | .ok none => .ok none
      | .ok (some (r, fetched)) => (tree s r.sourceName fetched).map fun root => some (fetched, root)

theorem meant_eq_none_iff :
    meant s base target = .ok none ↔
      target ≠ "" ∧ ∃ tried, candidates s.world.files.home target base = .ok tried ∧ ∀ r ∈ tried, Unavailable s r := by
  simp only [← firstFetched_eq_none_iff]
  unfold meant
  by_cases ht : target = ""
  · simp [ht]
  · cases candidates s.world.files.home target base with
    | error e => simp [ht]
    | ok tried =>
      rcases hf : firstFetched s tried with e | _ | ⟨r, f⟩
      · simp [ht, hf]
      · simp [ht, hf]
      · cases hr : tree s r.sourceName f <;> simp [ht, hf, hr, Except.map]

theorem meant_eq_some_iff :
    meant s base target = .ok (some (fetched, root)) ↔
      target ≠ "" ∧ ∃ tried r, candidates s.world.files.home target base = .ok tried ∧
        firstFetched s tried = .ok (some (r, fetched)) ∧ tree s r.sourceName fetched = .ok root := by
  constructor
  · intro h
    unfold meant at h
    by_cases ht : target = ""
    · simp [ht] at h
    · rw [if_neg ht] at h
      split at h
      · cases h
      · rename_i tried hc
        split at h
        · cases h
        · cases h
        · rename_i r f hf
          cases hr : tree s r.sourceName f with
          | error e =>
            rw [hr] at h
            cases h
          | ok n =>
            rw [hr] at h
            cases h
            exact ⟨ht, tried, r, hc, hf, hr⟩
  · rintro ⟨ht, tried, r, hc, hf, hr⟩
    simp [meant, ht, hc, hf, hr, Except.map]

theorem exists_root_of_tree {label : String} (h : tree s label fetched = .ok root) :
    ∃ name attributes content, root = .element name attributes content := by
  unfold tree at h
  split at h
  · rename_i n hn
    cases h
    exact Xml.isRoot_of_ofBytes? hn
  · cases h

theorem exists_root_of_meant (h : meant s base target = .ok (some (fetched, root))) :
    ∃ name attributes content, root = .element name attributes content := by
  obtain ⟨-, tried, r, -, -, ht⟩ := meant_eq_some_iff.mp h
  exact exists_root_of_tree ht

end Loader
end ConfigLayers
