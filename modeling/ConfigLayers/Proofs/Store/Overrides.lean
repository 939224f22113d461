import ConfigLayers.Proofs.Store.Layering

/-! The warnings about values that documents give to final names: one for each statement that would change
the value of its name, in the order of the statements. -/
namespace ConfigLayers
namespace Store

def override? : Event → Option Notice
  | .noticed notice => if notice.topic = .store ∧ notice.level = .warning then some notice else none
  | .resolved _ => none

/-- The warnings of the store among some events. -/
def overrides (events : List Event) : List Notice :=
  events.filterMap override?

@[simp] theorem overrides_nil : overrides [] = [] := rfl

@[simp] theorem overrides_append (es fs : List Event) : overrides (es ++ fs) = overrides es ++ overrides fs :=
  List.filterMap_append

theorem overrides_eq_nil {es : List Event} (h : ∀ e ∈ es, override? e = none) : overrides es = [] :=
  List.filterMap_eq_nil_iff.mpr h

theorem overrides_overrideNotice? {l : Layering} {before : List Statement} (h : Reflects l.store before) (x : Statement) :
    overrides (((overrideNotice? x.origin x.declared l.store x.name).map Event.noticed).toList) =
      if x.overrides l.store.allowsNull before then [x.warning] else [] := by
  unfold overrideNotice? Statement.overrides
  rw [h.isFinal, h.get?_entries]
  cases (Statement.counting x.name before).any (·.declared.isFinal) with
  | false => rfl
  | true =>
    cases x.declared.value with
    | none => rfl
    | some new =>
      cases (Statement.lastWritten? l.store.allowsNull x.name before).bind Entry.value with
      | none => rfl
      | some old =>
        by_cases he : new = old
        · simp [he]
        · simp [he, overrides, override?, Statement.warning]

theorem overrides_declareEvents {l : Layering} {before : List Statement} (h : Reflects l.store before) (o : Origin)
    (p : Declared) (names : List String) :
    overrides (declareEvents o p l names) =
      Statement.warnings l.store.allowsNull before (names.map fun name => ⟨o, p, name⟩) := by
  induction names generalizing l before with
  | nil => rfl
  | cons name names ih =>
    have hh : Reflects (l.place ⟨o, p, name⟩).store (before ++ [⟨o, p, name⟩]) := h.placeAll [⟨o, p, name⟩]
    have hi := ih hh
    rw [(Layering.frame_place l _).allowsNull] at hi
    rw [declareEvents, overrides_append, List.map_cons, Statement.warnings, ← hi]
    exact congrArg (· ++ _) (overrides_overrideNotice? h ⟨o, p, name⟩)

theorem overrides_layerEvents {l : Layering} {before : List Statement} (h : Reflects l.store before) (d : Deprecations)
    (o : Origin) (ps : List Declared) :
    overrides (layerEvents d o l ps) =
      Statement.warnings l.store.allowsNull before (Statement.ofDeclared d o ps) := by
  induction ps generalizing l before with
  | nil => rfl
  | cons p ps ih =>
    let xs : List Statement := (d.targets p.name).map fun name => ⟨o, p, name⟩
    have hp : l.declareAll o p (d.targets p.name) = l.placeAll xs := by
      rw [Layering.placeAll, List.foldl_map]
      rfl
    have hi := ih (h.placeAll xs)
    rw [(Layering.frame_placeAll l xs).allowsNull] at hi
    have hd := overrides_declareEvents h o p (d.targets p.name)
    change overrides (_ :: declareEvents o p l _ ++ layerEvents d o (l.declareAll o p _) ps) =
      Statement.warnings _ _ (xs ++ Statement.ofDeclared d o ps)
    rw [Statement.warnings_append, hp, List.cons_append, overrides, List.filterMap_cons]
    change overrides (_ ++ _) = _
    rw [overrides_append, hi, hd]

end Store
end ConfigLayers
