import ConfigLayers.Store.Layer

/-! What declarations do to one name. A declaration makes a statement under each name that stands for its own;
the statements of a name count up to the first final one, and of these the last that writes wins. -/
namespace ConfigLayers
namespace Store

/-- A declaration under one of the names that stand for its own, and where it comes from. -/
structure Statement where
  origin : Origin
  declared : Declared
  name : String
  deriving DecidableEq, Repr

namespace Statement

/-- The statements of some declarations in order, each deprecated name replaced by its replacements. -/
def ofDeclared (d : Deprecations) (o : Origin) (ps : List Declared) : List Statement :=
  ps.flatMap fun p => (d.targets p.name).map fun name => ⟨o, p, name⟩

/-- The tags of a declaration with the locator of its document behind them, or the name of the document
alone if it has no tags. A locator that is empty counts as none. -/
def sources (x : Statement) : List String :=
  if x.declared.sources = [] then [x.origin.label]
  else x.declared.sources ++ (x.origin.locator.filter (· ≠ "")).toList

def entry (x : Statement) : Entry :=
  ⟨x.declared.value, x.sources⟩

def isWritten (nulls : Bool) (x : Statement) : Bool :=
  x.declared.value.isSome || nulls

def untilFinal : List Statement → List Statement
  | [] => []
  | x :: xs => if x.declared.isFinal then [x] else x :: untilFinal xs

/-- The statements that count for a name. -/
def counting (name : String) (xs : List Statement) : List Statement :=
  untilFinal (xs.filter (·.name = name))

/-- The entry that the statements give a name, if they give one. -/
def lastWritten? (nulls : Bool) (name : String) (xs : List Statement) : Option Entry :=
  (((counting name xs).filter (isWritten nulls)).getLast?).map entry

/-- Whether a statement behind some others would change the value of a final name. -/
def overrides (nulls : Bool) (before : List Statement) (x : Statement) : Bool :=
  (counting x.name before).any (·.declared.isFinal) &&
    match x.declared.value, (lastWritten? nulls x.name before).bind Entry.value with
    | some new, some old => new ≠ old
    | _, _ => false

/-- The warning about a statement that would change the value of a final name. -/
def warning (x : Statement) : Notice :=
  ⟨.warning, .store, x.origin.label ++ ":an attempt to override final parameter: " ++ x.name ++ ";  Ignoring."⟩

/-- The warnings that statements behind some others give, one for each that would change a final name. -/
def warnings (nulls : Bool) : List Statement → List Statement → List Notice
  | _, [] => []
  | before, x :: xs => (if x.overrides nulls before then [x.warning] else []) ++ warnings nulls (before ++ [x]) xs

theorem sources_eq (x : Statement) : x.origin.sources x.declared = x.sources := by
  unfold sources Origin.sources
  by_cases hs : x.declared.sources = []
  · simp [hs]
  · rcases hl : x.origin.locator with _ | locator
    · simp [hs]
    · by_cases he : locator = ""
      · simp [hs, he]
      · simp [hs, Option.filter, he]

theorem any_untilFinal (xs : List Statement) :
    (untilFinal xs).any (·.declared.isFinal) = xs.any (·.declared.isFinal) := by
  induction xs with
  | nil => rfl
  | cons x xs ih => by_cases hx : x.declared.isFinal <;> simp [untilFinal, hx, ih]

theorem counting_cons_of_ne {name : String} {x : Statement} (h : x.name ≠ name) (xs : List Statement) :
    counting name (x :: xs) = counting name xs := by
  simp [counting, h]

theorem counting_cons_of_eq {name : String} {x : Statement} (h : x.name = name) (xs : List Statement) :
    counting name (x :: xs) = if x.declared.isFinal then [x] else x :: counting name xs := by
  simp [counting, h, untilFinal]

theorem any_counting (name : String) (xs : List Statement) :
    (counting name xs).any (·.declared.isFinal) = xs.any fun x => x.name = name && x.declared.isFinal := by
  rw [counting, any_untilFinal, List.any_filter]

theorem lastWritten?_cons_of_ne {nulls : Bool} {name : String} {x : Statement} (h : x.name ≠ name)
    (xs : List Statement) : lastWritten? nulls name (x :: xs) = lastWritten? nulls name xs := by
  simp only [lastWritten?, counting_cons_of_ne h]

/-- The first statement counts, and those behind it win over it unless it is final. -/
theorem lastWritten?_cons_of_eq {nulls : Bool} {name : String} {x : Statement} (h : x.name = name)
    (xs : List Statement) :
    lastWritten? nulls name (x :: xs) =
      (if x.declared.isFinal then none else lastWritten? nulls name xs).or
        (if x.isWritten nulls then some x.entry else none) := by
  rw [lastWritten?, counting_cons_of_eq h]
  by_cases hf : x.declared.isFinal <;> by_cases hw : x.isWritten nulls
  · simp [hf, hw]
  · simp [hf, hw]
  · simp [lastWritten?, hf, hw, List.getLast?_cons]
  · simp [lastWritten?, hf, hw]

theorem counting_append (name : String) (xs ys : List Statement) :
    counting name (xs ++ ys) =
      if (counting name xs).any (·.declared.isFinal) then counting name xs
      else counting name xs ++ counting name ys := by
  rw [any_counting]
  induction xs with
  | nil => rfl
  | cons x xs ih =>
    by_cases hn : x.name = name
    · rw [List.cons_append, counting_cons_of_eq hn, counting_cons_of_eq hn, ih]
      rw [List.any_cons, hn]
      cases hf : x.declared.isFinal with
      | true => simp
      | false => cases xs.any fun y => y.name = name && y.declared.isFinal <;> simp
    · rw [List.cons_append, counting_cons_of_ne hn, counting_cons_of_ne hn, ih]
      simp [hn]

theorem lastWritten?_append (nulls : Bool) (name : String) (xs ys : List Statement) :
    lastWritten? nulls name (xs ++ ys) =
      if (counting name xs).any (·.declared.isFinal) then lastWritten? nulls name xs
      else (lastWritten? nulls name ys).or (lastWritten? nulls name xs) := by
  rw [lastWritten?, counting_append]
  split
  · rfl
  · rw [List.filter_append, List.getLast?_append, Option.map_or]
    rfl

theorem warnings_append (nulls : Bool) (before xs ys : List Statement) :
    warnings nulls before (xs ++ ys) = warnings nulls before xs ++ warnings nulls (before ++ xs) ys := by
  induction xs generalizing before with
  | nil => simp [warnings]
  | cons x xs ih => simp [warnings, ih]

end Statement
end Store
end ConfigLayers
