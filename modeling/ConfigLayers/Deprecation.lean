import ConfigLayers.Notice
import ConfigLayers.Table
import ConfigLayers.Text.Blank

/-! The registry of deprecated names: what replaces each, which names are replaced by a name, and which have
been warned about. -/
namespace ConfigLayers

/-- The names that replace a deprecated one, and the warning to give instead of the usual one. -/
structure Deprecation where
  replacements : List String
  message : Option String
  deriving DecidableEq

namespace Deprecation

def warning (d : Deprecation) (name : String) : String :=
  match d.message with
  | some "" | none => name ++ " is deprecated. Instead, use " ++ Text.join ", " d.replacements
  | some message => message

end Deprecation

structure Deprecations where
  entries : Table Deprecation
  replaced : Table (List String)
  warned : List String
  deriving DecidableEq

namespace Deprecations

def empty : Deprecations := ⟨∅, ∅, []⟩

/-- The deprecated names listed under a replacement, once for each time it replaces one. -/
def replacedBy (d : Deprecations) (name : String) : List String :=
  (d.replaced.get? name).getD []

/-- Strikes one listing of a deprecated name under each of its replacements. -/
def unlist (replaced : Table (List String)) (name : String) (replacements : List String) : Table (List String) :=
  replacements.foldl (fun t r => match t.get? r with
    | some names => t.insert r (names.erase name)
    | none => t) replaced

def list (replaced : Table (List String)) (name : String) (replacements : List String) : Table (List String) :=
  replacements.foldl (fun t r => t.insert r ((t.get? r).getD [] ++ [name])) replaced

/-- Deprecates a name, or gives it other replacements. A blank replacement does not count. -/
def add (d : Deprecations) (name : Option String) (replacements : List (Option String))
    (message : Option String) : Except Error Deprecations :=
  let kept := replacements.filterMap fun r => r.bind fun r => if Text.trim r == "" then none else some (Text.trim r)
  match name, kept with
  | none, _ | some "", _ | _, [] => .error (.noReplacement name)
  | some name, kept =>
    let name := Text.trim name
    let before := match d.entries.get? name with
      | some previous => unlist d.replaced name previous.replacements
      | none => d.replaced
    .ok { d with entries := d.entries.insert name ⟨kept, message⟩, replaced := list before name kept }

/-- The names that an operation on a name acts on. -/
def targets (d : Deprecations) (name : String) : List String :=
  match d.entries.get? name with
  | some deprecation => deprecation.replacements
  | none => [name]

def isDeprecated (d : Deprecations) (name : String) : Bool :=
  d.entries.contains name

/-- The other names of a property: the replacements of a name, then the names it replaces. -/
def aliases (d : Deprecations) (name : String) : List String :=
  ((d.entries.get? name).map Deprecation.replacements).getD [] ++ d.replacedBy name

/-- Notes that a name has been used. The first use of a deprecated name gives a warning. -/
def use (d : Deprecations) (name : String) : Deprecations × List Notice :=
  match d.entries.get? name with
  | none => (d, [])
  | some deprecation =>
    if d.warned.contains name then (d, [])
    else ({ d with warned := name :: d.warned }, [⟨.warning, .registry, deprecation.warning name⟩])

/-- The notices of a list of events, each name that was resolved counting as used. -/
def observe (d : Deprecations) : List Event → Deprecations × List Notice
  | [] => (d, [])
  | .noticed notice :: events =>
    let (d, notices) := d.observe events
    (d, notice :: notices)
  | .resolved name :: events =>
    let (d, first) := d.use name
    let (d, notices) := d.observe events
    (d, first ++ notices)

/-- The targets of a name, with the event that it was resolved. -/
def resolve (d : Deprecations) (name : String) : Outcome (List String) :=
  ⟨.ok (d.targets name), [.resolved name]⟩

def unregister (d : Deprecations) (name : String) : Except Error (Deprecation × Deprecations) :=
  match d.entries.get? name with
  | some deprecation => .ok (deprecation, { d with entries := d.entries.erase name })
  | none => .error (.unregistered name "deprecations" none)

def get (d : Deprecations) (name : String) : Except Error Deprecation :=
  match d.entries.get? name with
  | some deprecation => .ok deprecation
  | none => .error (.unregistered name "deprecations" (some d.entries.keys))

theorem targets_of_not_isDeprecated {d : Deprecations} {name : String} (h : d.isDeprecated name = false) :
    d.targets name = [name] := by
  have hn : d.entries.get? name = none := Option.not_isSome_iff_eq_none.mp (Bool.eq_false_iff.mp h)
  rw [targets, hn]

@[simp] theorem value_resolve (d : Deprecations) (name : String) :
    (d.resolve name).value = .ok (d.targets name) := rfl

@[simp] theorem trace_resolve (d : Deprecations) (name : String) :
    (d.resolve name).trace = [.resolved name] := rfl

end Deprecations
end ConfigLayers
