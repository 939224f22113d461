import ConfigLayers.Error
import ConfigLayers.Text.Blank
import ConfigLayers.Traced

/-! References of the form `${name}` in the text of a value, replaced by the text that a lookup gives for the
name with its own references replaced. A reference that has no text stays as it is. -/
namespace ConfigLayers
namespace Substitution

/-- A part of a text: a character that stands for itself, or a reference. -/
inductive Piece where
  | char (c : Char)
  | reference (name : List Char)
  deriving DecidableEq, Repr

def isNameChar (c : Char) : Bool :=
  c != '$' && c != '\x7b' && c != '\x7d' && !Text.isBlank c

/-- The name of a reference after its opening brace, and what follows its closing brace. -/
def reference? (cs : List Char) : Option (List Char × List Char) :=
  match cs.takeWhile isNameChar, cs.dropWhile isNameChar with
  | c :: name, '\x7d' :: rest => some (c :: name, rest)
  | _, _ => none

theorem length_lt_of_reference? {cs name rest : List Char} (h : reference? cs = some (name, rest)) :
    rest.length < cs.length := by
  unfold reference? at h
  split at h
  · rename_i c n r _ hd
    simp only [Option.some.injEq, Prod.mk.injEq] at h
    obtain ⟨_, rfl⟩ := h
    have := (List.dropWhile_sublist (l := cs) isNameChar).length_le
    rw [hd, List.length_cons] at this
    omega
  · simp at h

def pieces : List Char → List Piece
  | [] => []
  | '$' :: '\x7b' :: cs =>
    match h : reference? cs with
    | some (name, rest) =>
      have := length_lt_of_reference? h
      .reference name :: pieces rest
    | none => .char '$' :: pieces ('\x7b' :: cs)
  | c :: cs => .char c :: pieces cs
termination_by cs => cs.length

def written (name : List Char) : List Char :=
  '$' :: '\x7b' :: name ++ ['\x7d']

namespace Piece

def text : Piece → List Char
  | char c => [c]
  | reference name => written name

end Piece

/-- The text is nested deeper than the limit. -/
inductive Fault where
  | tooDeep
  deriving DecidableEq, Repr

abbrev Expansion := Traced String Fault

/-- Replaces the references among pieces, and tells whether any has been replaced. -/
def replace (lookup : String → Option String) (inner : List Char → Expansion (List Char)) :
    List Piece → Expansion (List Char × Bool)
  | [] => pure ([], false)
  | .char c :: ps => do
    let (rest, replaced) ← replace lookup inner ps
    return (c :: rest, replaced)
  | .reference name :: ps => do
    Traced.note (String.ofList name)
    match lookup (String.ofList name) with
    | none =>
      let (rest, replaced) ← replace lookup inner ps
      return (written name ++ rest, replaced)
    | some raw =>
      let text ← inner raw.toList
      let (rest, _) ← replace lookup inner ps
      return (text ++ rest, true)

/-- Replaces references until none is left that has a text; each step, into a reference or over the result,
takes one of the levels. -/
def expand (lookup : String → Option String) : Nat → List Char → Expansion (List Char)
  | 0, _ => Traced.fail .tooDeep
  | levels + 1, text => do
    let (result, replaced) ← replace lookup (expand lookup levels) (pieces text)
    if !replaced || result == text then return result
    else expand lookup levels result

/-- The deepest nesting of a value of a store. -/
def standardLimit : Int := 20

/-- Replaces the references in a value nested up to a limit; errors name the property, or the value. -/
def substitute (value : Option String) (lookup : String → Option String) (name : Option String)
    (limit : Int) : Traced String Error (Option String) :=
  match value with
  | none => pure none
  | some value =>
    (((expand lookup (limit + 1).toNat value.toList).rephrase id fun _ =>
      .substitutionTooDeep (name.getD value) limit) >>= fun text => pure (some (String.ofList text)))

end Substitution
end ConfigLayers
