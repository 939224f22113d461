import ConfigLayers.Proofs.Document.Inclusion
import ConfigLayers.Proofs.Traced

/-! The walk over the content of a document. It goes from one element to the next, each adding what it declares
behind the others, until it comes to the end or to an element that fails. How many calls there may be inside one
another decides only whether it gets that far. -/
namespace ConfigLayers
namespace Loader

abbrev Walked := Except Error (List Declared)

def chain (x y : Walked) : Walked := do
  return (← x) ++ (← y)

section Chain

variable {x y : Walked}

@[simp] theorem chain_ok (ps : List Declared) (y : Walked) : chain (.ok ps) y = y.map (ps ++ ·) := by
  cases y <;> rfl

@[simp] theorem chain_error (e : Error) (y : Walked) : chain (.error e) y = .error e := rfl

@[simp] theorem nil_chain (y : Walked) : chain (.ok []) y = y := by
  cases y <;> rfl

@[simp] theorem chain_nil (x : Walked) : chain x (.ok []) = x := by
  cases x with
  | ok ps => exact congrArg _ (List.append_nil ps)
  | error e => rfl

theorem chain_assoc (x y z : Walked) : chain (chain x y) z = chain x (chain y z) := by
  cases x with
  | error e => rfl
  | ok ps =>
    cases y with
    | error e => rfl
    | ok qs =>
      cases z with
      | error e => rfl
      | ok rs => exact congrArg _ (List.append_assoc ps qs rs)

theorem chain_eq_ok_iff {ps : List Declared} :
    chain x y = .ok ps ↔ ∃ qs rs, x = .ok qs ∧ y = .ok rs ∧ ps = qs ++ rs := by
  cases x <;> cases y <;> simp [Except.map, eq_comm]

theorem chain_eq_error_iff {e : Error} :
    chain x y = .error e ↔ x = .error e ∨ (∃ qs, x = .ok qs) ∧ y = .error e := by
  cases x <;> cases y <;> simp [Except.map]

end Chain

section Values

variable (s : Surroundings) (nested inner : Walker) (base : Option String)

theorem value_loadNodes_cons (n : Xml.Node) (rest : List Xml.Node) :
    (loadNodes s nested inner base (n :: rest)).value =
      chain (loadNode s nested inner base n).value (loadNodes s nested inner base rest).value := by
  rw [loadNodes]
  simp only [Traced.value_bind, Traced.value_pure]
  rfl

theorem value_loadNodes_append (xs ys : List Xml.Node) :
    (loadNodes s nested inner base (xs ++ ys)).value =
      chain (loadNodes s nested inner base xs).value (loadNodes s nested inner base ys).value := by
  induction xs with
  | nil => exact (nil_chain _).symm
  | cons x xs ih => rw [List.cons_append, value_loadNodes_cons, value_loadNodes_cons, ih, chain_assoc]

theorem value_loadNodes_eq_error {s : Surroundings} {nested inner : Walker} {base : Option String}
    {ns : List Xml.Node} {e : Error} (h : (loadNodes s nested inner base ns).value = .error e) :
    ∃ before n after, ns = before ++ n :: after ∧ (∃ ps, (loadNodes s nested inner base before).value = .ok ps) ∧
      (loadNode s nested inner base n).value = .error e := by
  induction ns with
  | nil => cases h
  | cons n ns ih =>
    rw [value_loadNodes_cons] at h
    rcases chain_eq_error_iff.mp h with hn | ⟨⟨ps, hn⟩, h⟩
    · exact ⟨[], n, ns, rfl, ⟨[], rfl⟩, hn⟩
    · obtain ⟨before, m, after, rfl, ⟨qs, hb⟩, hm⟩ := ih h
      refine ⟨n :: before, m, after, rfl, ⟨ps ++ qs, ?_⟩, hm⟩
      rw [value_loadNodes_cons, hn, hb]
      rfl

theorem value_loadNodes_singleton (n : Xml.Node) :
    (loadNodes s nested inner base [n]).value = (loadNode s nested inner base n).value := by
  rw [value_loadNodes_cons]
  exact chain_nil _

theorem firstFallback?_append (xs ys : List Xml.Node) :
    firstFallback? (xs ++ ys) = (firstFallback? xs).or (firstFallback? ys) := by
  induction xs with
  | nil => rfl
  | cons x xs ih =>
    cases x with
    | text t => exact ih
    | element name attributes content =>
      rw [List.cons_append, firstFallback?, firstFallback?]
      split
      · rfl
      · exact ih

theorem value_loadFallback (target : String) (ns : List Xml.Node) :
    (loadFallback inner base target ns).value =
      match firstFallback? ns with
      | some content => (inner base content).value
      | none => .error (.includeUnavailable target base) := by
  unfold loadFallback
  cases firstFallback? ns <;> rfl

theorem value_included (target : String) :
    (included s inner base target).value =
      match meant s base target with
      | .error e => .error e
      | .ok none => .ok none
      | .ok (some (fetched, .element _ _ content)) => (inner fetched.base content).value.map some
      | .ok (some (_, .text _)) => .ok (some []) := by
  unfold included meant
  by_cases ht : target = ""
  · simp only [ht]
    rfl
  · simp only [ht, beq_iff_eq, if_false, Traced.value_bind, Traced.value_liftM]
    cases candidates s.world.files.home target base with
    | error e => rfl
    | ok tried =>
      rcases hf : firstFetched s tried with e | _ | ⟨r, fetched⟩
      · simp only [bind, Except.bind, hf]
      · simp only [bind, Except.bind, hf]
        rfl
      · simp only [bind, Except.bind, hf]
        rcases tree s r.sourceName fetched with e | t | ⟨name, attributes, content⟩
        · rfl
        · rfl
        · exact Traced.value_bind (inner fetched.base content) _

variable {s nested inner base} {name : Xml.Name} {attributes : List (Xml.Name × String)} {content : List Xml.Node}

/-- An inclusion declares what the document does that it means, or else its first fallback. -/
theorem value_inclusion (h : roleOf name = .inclusion) :
    (loadNode s nested inner base (.element name attributes content)).value =
      match meant s base (targetOf attributes) with
      | .error e => .error e
      | .ok none =>
        match firstFallback? content with
        | some instead => (inner base instead).value
        | none => .error (.includeUnavailable (targetOf attributes) base)
      | .ok (some (fetched, .element _ _ included)) => (inner fetched.base included).value
      | .ok (some (_, .text _)) => .ok [] := by
  rw [loadNode, h]
  change (included s inner base (targetOf attributes) >>= _).value = _
  rw [Traced.value_bind, value_included]
  rcases meant s base (targetOf attributes) with e | _ | ⟨fetched, t | ⟨root, rootAttributes, included⟩⟩
  · rfl
  · exact value_loadFallback inner base _ content
  · rfl
  · dsimp only
    cases (inner fetched.base included).value <;> rfl

theorem value_configuration (h : roleOf name = .configuration) :
    (loadNode s nested inner base (.element name attributes content)).value = (nested base content).value := by
  rw [loadNode, h]

theorem value_property (h : roleOf name = .property) :
    (loadNode s nested inner base (.element name attributes content)).value =
      .ok (Declared.ofElement? attributes content).toList := by
  rw [loadNode, h]
  rfl

def isPassed : Xml.Node → Bool
  | .text _ => true
  | .element name _ _ => roleOf name == .fallback || roleOf name == .unknown

theorem value_of_isPassed {n : Xml.Node} (h : isPassed n = true) :
    (loadNode s nested inner base n).value = .ok [] := by
  cases n with
  | text t => rfl
  | element name attributes content =>
    rw [loadNode]
    cases hr : roleOf name <;> simp [isPassed, hr] at h <;> rfl

end Values

/-- An inclusion fails: what its target means is not found out, or is not available and there is no fallback. -/
def Fails (s : Surroundings) (base : Option String) (attributes : List (Xml.Name × String)) (content : List Xml.Node)
    (e : Error) : Prop :=
  meant s base (targetOf attributes) = .error e ∨
    meant s base (targetOf attributes) = .ok none ∧ firstFallback? content = none ∧
      e = .includeUnavailable (targetOf attributes) base

/-- What the walk over a node comes to: an end, or the walk over some other content. -/
inductive Turn where
  | ends (x : Walked)
  | nested (content : List Xml.Node)
  | inner (base : Option String) (content : List Xml.Node)

def Turn.value (nested inner : Walker) (base : Option String) : Turn → Walked
  | .ends x => x
  | .nested content => (nested base content).value
  | .inner base content => (inner base content).value

/-- What the walk over a node from a base comes to, and why. -/
inductive Turns (s : Surroundings) (base : Option String) : Xml.Node → Turn → Prop where
  | passed {n : Xml.Node} : isPassed n = true → Turns s base n (.ends (.ok []))
  | property {name : Xml.Name} (attributes : List (Xml.Name × String)) (content : List Xml.Node) :
      roleOf name = .property →
        Turns s base (.element name attributes content) (.ends (.ok (Declared.ofElement? attributes content).toList))
  | configuration {name : Xml.Name} (attributes : List (Xml.Name × String)) (content : List Xml.Node) :
      roleOf name = .configuration → Turns s base (.element name attributes content) (.nested content)
  | included {name root : Xml.Name} {attributes rootAttributes : List (Xml.Name × String)}
      (content : List Xml.Node) {included : List Xml.Node} {fetched : Fetched} : roleOf name = .inclusion →
      meant s base (targetOf attributes) = .ok (some (fetched, .element root rootAttributes included)) →
        Turns s base (.element name attributes content) (.inner fetched.base included)
  | fallback {name : Xml.Name} {attributes : List (Xml.Name × String)} {content instead : List Xml.Node} :
      roleOf name = .inclusion → meant s base (targetOf attributes) = .ok none →
      firstFallback? content = some instead →
        Turns s base (.element name attributes content) (.inner base instead)
  | fails {name : Xml.Name} {attributes : List (Xml.Name × String)} {content : List Xml.Node} {e : Error} :
      roleOf name = .inclusion → Fails s base attributes content e →
        Turns s base (.element name attributes content) (.ends (.error e))

theorem exists_turn (s : Surroundings) (base : Option String) (n : Xml.Node) : ∃ t, Turns s base n t := by
  cases n with
  | text t => exact ⟨_, .passed rfl⟩
  | element name attributes content =>
    cases hr : roleOf name with
    | property => exact ⟨_, .property attributes content hr⟩
    | configuration => exact ⟨_, .configuration attributes content hr⟩
    | inclusion =>
      rcases hm : meant s base (targetOf attributes) with e | _ | ⟨fetched, root⟩
      · exact ⟨_, .fails hr (.inl hm)⟩
      · cases hf : firstFallback? content with
        | none => exact ⟨_, .fails hr (.inr ⟨hm, hf, rfl⟩)⟩
        | some instead => exact ⟨_, .fallback hr hm hf⟩
      · obtain ⟨root, rootAttributes, included, rfl⟩ := exists_root_of_meant hm
        exact ⟨_, .included content hr hm⟩
    | fallback | unknown => exact ⟨_, .passed (by simp [isPassed, hr])⟩

theorem Turns.value_loadNode {s : Surroundings} {base : Option String} {n : Xml.Node} {t : Turn}
    (h : Turns s base n t) (nested inner : Walker) :
    (loadNode s nested inner base n).value = t.value nested inner base := by
  cases h with
  | passed h => exact value_of_isPassed h
  | property attributes content hr => exact value_property hr
  | configuration attributes content hr => exact value_configuration hr
  | included content hr hm =>
    rw [value_inclusion hr, hm]
    rfl
  | fallback hr hm hf =>
    rw [value_inclusion hr, hm, hf]
    rfl
  | fails hr hf =>
    rw [value_inclusion hr]
    rcases hf with hm | ⟨hm, hf, rfl⟩
    · rw [hm]
      rfl
    · rw [hm, hf]
      rfl

/-- The second of two ends is the first, unless the first is that there is no room for more calls. -/
def Below (x y : Walked) : Prop :=
  x ≠ .error .nestingTooDeep → y = x

namespace Below

variable {x x' y y' : Walked}

theorem refl (x : Walked) : Below x x :=
  fun _ => rfl

theorem tooDeep (y : Walked) : Below (.error .nestingTooDeep) y :=
  fun h => (h rfl).elim

theorem trans {z : Walked} (h : Below x y) (h' : Below y z) : Below x z := by
  intro hx
  obtain rfl := h hx
  exact h' hx

theorem chain (h : Below x x') (h' : Below y y') : Below (chain x y) (chain x' y') := by
  intro hc
  cases x with
  | error e => rw [h hc, chain_error, chain_error]
  | ok ps =>
    rw [h (by simp), h' ?_]
    rintro rfl
    exact hc rfl

end Below

section Calls

variable {s : Surroundings} {nested nested' inner inner' : Walker}

theorem below_loadNode (hn : ∀ base content, Below (nested base content).value (nested' base content).value)
    (hi : ∀ base content, Below (inner base content).value (inner' base content).value) (base : Option String)
    (n : Xml.Node) : Below (loadNode s nested inner base n).value (loadNode s nested' inner' base n).value := by
  obtain ⟨t, ht⟩ := exists_turn s base n
  rw [ht.value_loadNode, ht.value_loadNode]
  cases t with
  | ends x => exact .refl x
  | nested content => exact hn base content
  | inner base content => exact hi base content

theorem below_loadNodes (hn : ∀ base content, Below (nested base content).value (nested' base content).value)
    (hi : ∀ base content, Below (inner base content).value (inner' base content).value) (base : Option String)
    (ns : List Xml.Node) :
    Below (loadNodes s nested inner base ns).value (loadNodes s nested' inner' base ns).value := by
  induction ns with
  | nil => exact .refl _
  | cons n rest ih =>
    rw [value_loadNodes_cons, value_loadNodes_cons]
    exact (below_loadNode hn hi base n).chain ih

theorem loadContent_succ (s : Surroundings) (calls : Nat) :
    loadContent s (calls + 1) = loadNodes s (loadContent s calls) (loadContent s (calls - 1)) := by
  cases calls <;> rfl

theorem below_loadContent (s : Surroundings) {calls calls' : Nat} (h : calls ≤ calls') (base : Option String)
    (content : List Xml.Node) :
    Below (loadContent s calls base content).value (loadContent s calls' base content).value := by
  have hs : ∀ calls base content,
      Below (loadContent s calls base content).value (loadContent s (calls + 1) base content).value := by
    intro calls
    induction calls using loadContent.induct with
    | case1 => exact fun base content => .tooDeep _
    | case2 ih => exact fun base content => below_loadNodes ih (fun _ _ => .refl _) base content
    | case3 calls ihn ihi => exact fun base content => below_loadNodes ihn ihi base content
  induction h with
  | refl => exact .refl _
  | step _ ih => exact ih.trans (hs _ base content)

theorem tooDeep_of_le {calls calls' : Nat} (h : calls ≤ calls') {base : Option String} {content : List Xml.Node}
    (hd : (loadContent s calls' base content).value = .error .nestingTooDeep) :
    (loadContent s calls base content).value = .error .nestingTooDeep :=
  Classical.byContradiction fun hn => hn ((below_loadContent s h base content hn).symm.trans hd)

end Calls

theorem value_loadContent_append (s : Surroundings) (calls : Nat) (base : Option String) (xs ys : List Xml.Node) :
    (loadContent s calls base (xs ++ ys)).value =
      chain (loadContent s calls base xs).value (loadContent s calls base ys).value := by
  cases calls with
  | zero => rfl
  | succ calls =>
    rw [loadContent_succ]
    exact value_loadNodes_append s _ _ base xs ys

section Content

variable {s : Surroundings} {base : Option String} {name : Xml.Name} {attributes : List (Xml.Name × String)}
  {content : List Xml.Node}

theorem value_loadContent_singleton (s : Surroundings) (calls : Nat) (base : Option String) (n : Xml.Node) :
    (loadContent s (calls + 1) base [n]).value =
      (loadNode s (loadContent s calls) (loadContent s (calls - 1)) base n).value := by
  rw [loadContent_succ]
  exact value_loadNodes_singleton _ _ _ _ n

theorem Turns.value_loadContent {n : Xml.Node} {t : Turn} (h : Turns s base n t) (calls : Nat) :
    (loadContent s (calls + 1) base [n]).value = t.value (loadContent s calls) (loadContent s (calls - 1)) base :=
  (value_loadContent_singleton s calls base n).trans (h.value_loadNode _ _)

theorem value_loadContent_configuration (h : roleOf name = .configuration) (calls : Nat) :
    (loadContent s (calls + 1) base [.element name attributes content]).value =
      (loadContent s calls base content).value :=
  (Turns.configuration attributes content h).value_loadContent calls

theorem value_loadContent_fallback (h : roleOf name = .inclusion) (hm : meant s base (targetOf attributes) = .ok none)
    {instead : List Xml.Node} (hf : firstFallback? content = some instead) (calls : Nat) :
    (loadContent s (calls + 1) base [.element name attributes content]).value =
      (loadContent s (calls - 1) base instead).value :=
  (Turns.fallback h hm hf).value_loadContent calls

theorem value_loadContent_included (h : roleOf name = .inclusion) {fetched : Fetched} {root : Xml.Name}
    {rootAttributes : List (Xml.Name × String)} {included : List Xml.Node}
    (hm : meant s base (targetOf attributes) = .ok (some (fetched, .element root rootAttributes included)))
    (calls : Nat) : (loadContent s (calls + 1) base [.element name attributes content]).value =
      (loadContent s (calls - 1) fetched.base included).value :=
  (Turns.included content h hm).value_loadContent calls

end Content

/-- How the walk over some content ends, if no bound is set to how many calls there are inside one another. -/
def Walk (s : Surroundings) (base : Option String) (content : List Xml.Node) (x : Walked) : Prop :=
  x ≠ .error .nestingTooDeep ∧ ∃ calls, (loadContent s calls base content).value = x

namespace Walk

variable {s : Surroundings} {base base' : Option String} {xs ys : List Xml.Node} {x y : Walked}

theorem of_loadContent {calls : Nat} (h : (loadContent s calls base xs).value = x)
    (hx : x ≠ .error .nestingTooDeep) : Walk s base xs x :=
  ⟨hx, calls, h⟩

theorem eventually (h : Walk s base xs x) :
    ∃ calls, ∀ calls', calls ≤ calls' → (loadContent s calls' base xs).value = x := by
  obtain ⟨hx, calls, rfl⟩ := h
  exact ⟨calls, fun calls' hc => below_loadContent s hc base xs hx⟩

theorem unique (h : Walk s base xs x) (h' : Walk s base xs y) : x = y := by
  obtain ⟨calls, hc⟩ := h.eventually
  obtain ⟨calls', hc'⟩ := h'.eventually
  rw [← hc _ (Nat.le_max_left calls calls'), hc' _ (Nat.le_max_right calls calls')]

theorem value_eq_or (h : Walk s base xs x) (calls : Nat) :
    (loadContent s calls base xs).value = x ∨ (loadContent s calls base xs).value = .error .nestingTooDeep := by
  obtain ⟨calls', hc⟩ := h.eventually
  by_cases hn : (loadContent s calls base xs).value = .error .nestingTooDeep
  · exact .inr hn
  · refine .inl ?_
    rw [← hc _ (Nat.le_max_right calls calls')]
    exact (below_loadContent s (Nat.le_max_left calls calls') base xs hn).symm

theorem nil : Walk s base [] (.ok []) :=
  ⟨by simp, 1, rfl⟩

theorem of_below (h : ∀ calls, ∃ calls',
      Below (loadContent s calls base xs).value (loadContent s calls' base' ys).value) (hw : Walk s base xs x) :
    Walk s base' ys x := by
  obtain ⟨hx, calls, rfl⟩ := hw
  obtain ⟨calls', hb⟩ := h calls
  exact .of_loadContent (hb hx) hx

theorem append (h : Walk s base xs x) (h' : Walk s base ys y) : Walk s base (xs ++ ys) (chain x y) := by
  obtain ⟨calls, hc⟩ := h.eventually
  obtain ⟨calls', hc'⟩ := h'.eventually
  refine ⟨fun hn => ?_, max calls calls', ?_⟩
  · rcases chain_eq_error_iff.mp hn with rfl | ⟨-, rfl⟩
    · exact h.1 rfl
    · exact h'.1 rfl
  · rw [value_loadContent_append, hc _ (Nat.le_max_left calls calls'), hc' _ (Nat.le_max_right calls calls')]

theorem append_error {e : Error} (h : Walk s base xs (.error e)) (ys : List Xml.Node) :
    Walk s base (xs ++ ys) (.error e) := by
  obtain ⟨he, calls, hc⟩ := h
  refine ⟨he, calls, ?_⟩
  rw [value_loadContent_append, hc, chain_error]

theorem append_cases (h : Walk s base (xs ++ ys) x) :
    (∃ e, Walk s base xs (.error e) ∧ x = .error e) ∨
      ∃ ps y, Walk s base xs (.ok ps) ∧ Walk s base ys y ∧ x = chain (.ok ps) y := by
  obtain ⟨hx, calls, rfl⟩ := h
  rw [value_loadContent_append] at hx ⊢
  cases hxs : (loadContent s calls base xs).value with
  | error e =>
    rw [hxs, chain_error] at hx
    exact .inl ⟨e, .of_loadContent hxs hx, rfl⟩
  | ok ps =>
    refine .inr ⟨ps, _, .of_loadContent hxs (by simp), .of_loadContent rfl fun hy => ?_, rfl⟩
    rw [hxs, hy] at hx
    exact hx rfl

theorem append_ok_iff {ps : List Declared} :
    Walk s base (xs ++ ys) (.ok ps) ↔
      ∃ qs rs, Walk s base xs (.ok qs) ∧ Walk s base ys (.ok rs) ∧ ps = qs ++ rs := by
  constructor
  · intro h
    rcases h.append_cases with ⟨e, -, he⟩ | ⟨qs, y, hx, hy, hc⟩
    · cases he
    · obtain ⟨_, rs, hq, rfl, rfl⟩ := chain_eq_ok_iff.mp hc.symm
      cases hq
      exact ⟨qs, rs, hx, hy, rfl⟩
  · rintro ⟨qs, rs, hx, hy, rfl⟩
    exact hx.append hy

theorem error_iff {e : Error} :
    Walk s base xs (.error e) ↔
      ∃ before n after, xs = before ++ n :: after ∧ (∃ ps, Walk s base before (.ok ps)) ∧
        Walk s base [n] (.error e) := by
  constructor
  · rintro ⟨he, calls, h⟩
    cases calls with
    | zero => exact (he h.symm).elim
    | succ calls =>
      rw [loadContent_succ] at h
      obtain ⟨before, n, after, rfl, ⟨ps, hb⟩, hn⟩ := value_loadNodes_eq_error h
      refine ⟨before, n, after, rfl, ⟨ps, by simp, calls + 1, ?_⟩, he, calls + 1, ?_⟩
      · rw [loadContent_succ, hb]
      · rw [value_loadContent_singleton, hn]
  · rintro ⟨before, n, after, rfl, ⟨ps, hb⟩, hn⟩
    have h := (hb.append hn).append_error after
    rw [List.append_assoc] at h
    exact h

variable {name : Xml.Name} {attributes : List (Xml.Name × String)} {content : List Xml.Node}

theorem property (h : roleOf name = .property) :
    Walk s base [.element name attributes content] (.ok (Declared.ofElement? attributes content).toList) :=
  ⟨by simp, 1, (Turns.property attributes content h).value_loadContent 0⟩

theorem passed {n : Xml.Node} (h : isPassed n = true) : Walk s base [n] (.ok []) :=
  ⟨by simp, 1, (Turns.passed h).value_loadContent 0⟩

theorem iff_of_calls {n : Xml.Node} (less : Nat) (h : ∀ calls,
      (loadContent s (calls + 1) base [n]).value = (loadContent s (calls - less) base' xs).value) :
    Walk s base [n] x ↔ Walk s base' xs x := by
  constructor
  · refine of_below fun calls => ?_
    cases calls with
    | zero => exact ⟨0, .tooDeep _⟩
    | succ calls => exact ⟨calls - less, h calls ▸ .refl _⟩
  · refine of_below fun calls => ⟨calls + less + 1, ?_⟩
    rw [h, Nat.add_sub_cancel]
    exact .refl _

theorem configuration_iff (h : roleOf name = .configuration) :
    Walk s base [.element name attributes content] x ↔ Walk s base content x :=
  iff_of_calls 0 (value_loadContent_configuration h)

theorem fallback_iff (h : roleOf name = .inclusion) (hm : meant s base (targetOf attributes) = .ok none)
    {instead : List Xml.Node} (hf : firstFallback? content = some instead) :
    Walk s base [.element name attributes content] x ↔ Walk s base instead x :=
  iff_of_calls 1 (value_loadContent_fallback h hm hf)

theorem included_iff (h : roleOf name = .inclusion) {fetched : Fetched} {root : Xml.Name}
    {rootAttributes : List (Xml.Name × String)} {included : List Xml.Node}
    (hm : meant s base (targetOf attributes) = .ok (some (fetched, .element root rootAttributes included))) :
    Walk s base [.element name attributes content] x ↔ Walk s fetched.base included x :=
  iff_of_calls 1 (value_loadContent_included h hm)

end Walk

variable {s : Surroundings} {room : Nat} {r : Resource} {fetched : Fetched} {root : Xml.Name}
  {attributes : List (Xml.Name × String)} {ns : List Xml.Node} {e : Error}

theorem value_loadWithin (hf : r.fetch s.resolver s.world = .ok fetched)
    (ht : tree s r.sourceName fetched = .ok (.element (Xml.Name.plain "configuration") attributes ns)) :
    (loadWithin s room r).value = (loadContent s (room + 1) fetched.base ns).value := by
  have hf' : (Traced.ofExcept (r.fetch s.resolver s.world) : Outcome Fetched).value = .ok fetched := hf
  have ht' : (Traced.ofExcept (tree s r.sourceName fetched) : Outcome Xml.Node).value =
      .ok (.element (Xml.Name.plain "configuration") attributes ns) := ht
  exact (Traced.value_bind_ok _ hf').trans (Traced.value_bind_ok _ ht')

theorem value_loadWithin_of_unfetched (h : r.fetch s.resolver s.world = .error e) :
    (loadWithin s room r).value = .error e :=
  Traced.value_bind_error _ h

theorem value_loadWithin_of_malformed (hf : r.fetch s.resolver s.world = .ok fetched)
    (ht : tree s r.sourceName fetched = .error e) : (loadWithin s room r).value = .error e :=
  (Traced.value_bind_ok _ hf).trans (Traced.value_bind_error _ ht)

theorem value_loadWithin_of_wrongRoot (hf : r.fetch s.resolver s.world = .ok fetched)
    (ht : tree s r.sourceName fetched = .ok (.element root attributes ns)) (hr : root ≠ Xml.Name.plain "configuration") :
    (loadWithin s room r).value = .error (.wrongRoot r.sourceName root.text) := by
  refine (Traced.value_bind_ok _ hf).trans ((Traced.value_bind_ok _ ht).trans ?_)
  dsimp only
  rw [if_neg (by simpa using hr)]
  rfl

theorem value_load_eq_ok {ps : List Declared} (h : (load s r).value = .ok ps) :
    ∃ fetched attributes ns, r.fetch s.resolver s.world = .ok fetched ∧
      tree s r.sourceName fetched = .ok (.element (Xml.Name.plain "configuration") attributes ns) ∧
      Walk s fetched.base ns (.ok ps) := by
  obtain ⟨fetched, hf, h⟩ := Traced.value_bind_eq_ok_iff.mp h
  obtain ⟨root, ht, h⟩ := Traced.value_bind_eq_ok_iff.mp h
  cases root with
  | text t => cases h
  | element name attributes ns =>
    dsimp only at h
    split at h
    · rename_i hn
      obtain rfl := beq_iff_eq.mp hn
      exact ⟨fetched, attributes, ns, hf, ht, .of_loadContent h (by simp)⟩
    · cases h

end Loader
end ConfigLayers
