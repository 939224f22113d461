import ConfigLayers.Proofs.Credential.Reading
import ConfigLayers.Proofs.Store.Expansion
import ConfigLayers.Store.Password

/-! How asking for a secret may fail: with the first provider that cannot be made, else with the first that cannot
answer, when those before it have no answer. -/
namespace ConfigLayers
namespace Store

variable {w : World} {names : List String} {e : Error}

theorem answerOf_congr {p q : CredentialProvider} (h : ∀ name, (p.get w name).2 = (q.get w name).2) :
    answerOf w p names = answerOf w q names := by
  induction names generalizing p q with
  | nil => rfl
  | cons name names ih =>
    have hnext : answerOf w (p.get w name).1 names = answerOf w (q.get w name).1 names := by
      refine ih fun other => ?_
      rw [CredentialProvider.get_get, CredentialProvider.get_get, h other]
    have hname := h name
    unfold answerOf
    generalize p.get w name = x at hname hnext
    generalize q.get w name = y at hname hnext
    obtain ⟨p', answer⟩ := x
    obtain ⟨q', answer'⟩ := y
    cases hname
    rcases answer with e | _ | secret
    · rfl
    · exact hnext
    · rfl

theorem answerOf_cons (p : CredentialProvider) (name : String) :
    answerOf w p (name :: names) = (p.get w name).2 >>= fun answer => match answer with
      | some secret => .ok (some secret)
      | none => answerOf w p names := by
  have hnext : answerOf w (p.get w name).1 names = answerOf w p names :=
    answerOf_congr fun other => CredentialProvider.get_get p w name other
  rw [answerOf]
  generalize p.get w name = x at hnext
  obtain ⟨p', answer⟩ := x
  rcases answer with e | _ | secret
  · rfl
  · exact hnext
  · rfl

theorem answerOf_eq_none_iff {p : CredentialProvider} :
    answerOf w p names = .ok none ↔ ∀ name ∈ names, (p.get w name).2 = .ok none := by
  induction names with
  | nil => simp [answerOf]
  | cons name names ih =>
    rw [answerOf_cons, List.forall_mem_cons, ← ih]
    rcases (p.get w name).2 with e | _ | secret <;> simp [bind, Except.bind]

theorem answerOf_ne_error {p : CredentialProvider} (h : ∀ name, ∃ answer, (p.get w name).2 = .ok answer) :
    answerOf w p names ≠ .error e := by
  induction names with
  | nil =>
    intro he
    cases he
  | cons name names ih =>
    obtain ⟨answer, hname⟩ := h name
    rw [answerOf_cons, hname]
    cases answer with
    | none => exact ih
    | some secret =>
      intro he
      cases he

theorem answerOf_eq_error_iff {p : CredentialProvider} (hn : names ≠ []) :
    answerOf w p names = .error e ↔ ∃ f, p = .file f ∧ (f.load w).2 = .error e := by
  cases p with
  | file f =>
    have hget : ∀ name, ((CredentialProvider.file f).get w name).2 = (f.load w).2.map (·.get? name) :=
      fun _ => rfl
    cases hl : (f.load w).2 with
    | ok entries =>
      have hok : ∀ name, ∃ answer, ((CredentialProvider.file f).get w name).2 = .ok answer := by
        intro name
        rw [hget, hl]
        exact ⟨_, rfl⟩
      simpa [hl] using answerOf_ne_error hok
    | error e' =>
      obtain ⟨name, rest, rfl⟩ := List.exists_cons_of_ne_nil hn
      rw [answerOf_cons, hget, hl]
      simp [bind, Except.bind, Except.map, hl]
  | environment start => simpa using answerOf_ne_error fun name => ⟨_, rfl⟩
  | fixed secrets => simpa using answerOf_ne_error fun name => ⟨_, rfl⟩

theorem answerAmong_eq_error_iff {providers : List CredentialProvider} :
    answerAmong w names providers = .error e ↔
      ∃ before p after, providers = before ++ p :: after ∧ (∀ q ∈ before, answerOf w q names = .ok none) ∧
        answerOf w p names = .error e := by
  induction providers with
  | nil => simp [answerAmong]
  | cons p providers ih =>
    constructor
    · intro h
      rw [answerAmong] at h
      cases hp : answerOf w p names with
      | error e' =>
        rw [hp] at h
        cases h
        exact ⟨[], p, providers, rfl, by simp, hp⟩
      | ok answer =>
        rw [hp] at h
        cases answer with
        | some secret => cases h
        | none =>
          obtain ⟨before, q, after, rfl, hb, hq⟩ := ih.mp h
          exact ⟨p :: before, q, after, rfl, List.forall_mem_cons.mpr ⟨hp, hb⟩, hq⟩
    · rintro ⟨before, q, after, hps, hb, hq⟩
      cases before with
      | nil =>
        cases hps
        rw [answerAmong, hq]
        rfl
      | cons r before =>
        cases hps
        obtain ⟨hr, hb⟩ := List.forall_mem_cons.mp hb
        rw [answerAmong, hr]
        exact ih.mpr ⟨before, q, after, rfl, hb, hq⟩

/-- The names that are read when a secret is asked for. -/
def readsOfPassword (c : Context) (name : String) : List String :=
  providersName :: fallbackName :: name :: c.deprecations.aliases name

section Password

variable {s : Store} {c : Context} {name : String}
  (hreads : ∀ read ∈ readsOfPassword c name, FailsAs (·.kind ≠ .substitution) (s.get c read none).value)
include hreads

theorem exists_value_get {read : String} (h : read ∈ readsOfPassword c name) :
    ∃ value, (s.get c read none).value = .ok value := by
  cases hv : (s.get c read none).value with
  | ok value => exact ⟨value, rfl⟩
  | error e => exact absurd (failsAs_get s c read none e hv) (hreads read h e hv)

theorem exists_value_valueOfAny (h : names ⊆ readsOfPassword c name) :
    ∃ value, (s.valueOfAny c names).value = .ok value := by
  induction names with
  | nil => exact ⟨none, rfl⟩
  | cons first names ih =>
    obtain ⟨hf, hn⟩ := List.cons_subset.mp h
    obtain ⟨value, hv⟩ := exists_value_get hreads hf
    rw [valueOfAny, Traced.value_bind_ok _ hv]
    cases value with
    | some text => exact ⟨_, rfl⟩
    | none => exact ih hn

theorem exists_value_getTrimmedItems (defaults : List String) :
    ∃ uris, (s.getTrimmedItems c providersName defaults).value = .ok uris := by
  obtain ⟨value, hv⟩ := exists_value_get hreads List.mem_cons_self
  rw [getTrimmedItems, Traced.value_bind_ok _ hv]
  exact ⟨_, rfl⟩

theorem exists_value_getBoolean (default : Option Bool) :
    ∃ flag, (s.getBoolean c fallbackName default).value = .ok flag := by
  obtain ⟨value, hv⟩ := exists_value_get hreads (List.mem_cons_of_mem _ List.mem_cons_self)
  have ht : (s.getTrimmed c fallbackName none).value = .ok (value.map Text.trim) := by
    rw [getTrimmed, Traced.value_bind_ok _ hv]
    cases value <;> rfl
  rw [getBoolean, Traced.value_bind_ok _ ht]
  cases value <;> exact ⟨_, rfl⟩

/-- A secret is not found out for a provider that cannot be made, or one that cannot answer. -/
theorem getPassword_eq_error_iff {schemes : CredentialSchemes} {uris : List String}
    (hu : (s.getTrimmedItems c providersName []).value = .ok uris) :
    (s.getPassword c schemes name).value = .error e ↔
      uris.mapM schemes.provider = .error e ∨ ∃ providers, uris.mapM schemes.provider = .ok providers ∧
        answerAmong c.world (name :: c.deprecations.aliases name) providers = .error e := by
  rw [getPassword, Traced.value_bind_ok _ hu]
  cases hm : uris.mapM schemes.provider with
  | error e' =>
    rw [Traced.value_bind_error _ (Traced.value_liftM (.error e'))]
    simp
  | ok providers =>
    rw [Traced.value_bind_ok _ (Traced.value_liftM (.ok providers))]
    cases ha : answerAmong c.world (name :: c.deprecations.aliases name) providers with
    | error e' =>
      rw [Traced.value_bind_error _ (Traced.value_liftM (.error e'))]
      simp [ha]
    | ok answer =>
      rw [Traced.value_bind_ok _ (Traced.value_liftM (.ok answer))]
      have hright : ¬(.ok providers = (.error e : Except Error (List CredentialProvider)) ∨
          ∃ providers', .ok providers = (.ok providers' : Except Error _) ∧
            answerAmong c.world (name :: c.deprecations.aliases name) providers' = .error e) := by
        rintro (⟨⟨⟩⟩ | ⟨_, ⟨⟩, he⟩)
        cases ha.symm.trans he
      refine ⟨fun h => ?_, fun h => absurd h hright⟩
      cases answer with
      | some secret => cases h
      | none =>
        obtain ⟨flag, hf⟩ := exists_value_getBoolean hreads (some true)
        have hnames : name :: c.deprecations.aliases name ⊆ readsOfPassword c name :=
          List.subset_cons_of_subset _ (List.subset_cons_self _ _)
        obtain ⟨value, hv⟩ := exists_value_valueOfAny hreads hnames
        dsimp only at h
        rw [Traced.value_bind_ok _ hf] at h
        split at h
        · cases hv.symm.trans h
        · cases h

end Password

end Store
end ConfigLayers
