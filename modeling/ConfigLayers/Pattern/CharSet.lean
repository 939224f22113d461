import ConfigLayers.Text.Blank
import ConfigLayers.Text.Case
import ConfigLayers.Text.Digit
import ConfigLayers.Text.Word

/-! Sets of characters in regular expressions. Where case is ignored, a character is in a set when some
character of the same lower-case form is. -/
namespace ConfigLayers
namespace Pattern

inductive Category where
  | digit
  | blank
  | word
  deriving DecidableEq, Repr

namespace Category

/-- Membership among all characters, or among those of ASCII alone. -/
def contains (category : Category) (ascii : Bool) (c : Char) : Bool :=
  (!ascii || c.toNat < 0x80) && match category with
    | digit => Text.isDecimalDigit c
    | blank => Text.isBlank c && (!ascii || !(0x1c ≤ c.toNat && c.toNat ≤ 0x1f))
    | word => Text.isWord c

end Category

/-- A span of code points, or a category or its complement. -/
inductive Member where
  | span (low high : Nat)
  | category (category : Category) (negated : Bool)
  deriving DecidableEq, Repr

structure CharSet where
  negated : Bool
  members : List Member
  ignoreCase : Bool
  ascii : Bool
  deriving DecidableEq, Repr

/-- Lower-case letters that share an upper-case form. -/
def caseTwins : List (List Nat) := [
    [0x69, 0x131], [0x73, 0x17f], [0xb5, 0x3bc], [0x345, 0x3b9, 0x1fbe], [0x390, 0x1fd3], [0x3b0, 0x1fe3],
    [0x3b2, 0x3d0], [0x3b5, 0x3f5], [0x3b8, 0x3d1], [0x3ba, 0x3f0], [0x3c0, 0x3d6], [0x3c1, 0x3f1],
    [0x3c2, 0x3c3], [0x3c6, 0x3d5], [0x432, 0x1c80], [0x434, 0x1c81], [0x43e, 0x1c82], [0x441, 0x1c83],
    [0x442, 0x1c84, 0x1c85], [0x44a, 0x1c86], [0x463, 0x1c87], [0x1c88, 0xa64b], [0x1e61, 0x1e9b],
    [0xfb05, 0xfb06]]

def foldCase (ascii : Bool) (c : Char) : Char :=
  if ascii && 0x80 ≤ c.toNat then c else Text.lowerFirst c

/-- The code points whose lower-case form is the given one. -/
def unfoldCase (n : Nat) : List Nat :=
  n :: Text.lowerRuns.toList.filterMap (fun r =>
      let source := ((n : Int) - r.offset).toNat
      if r.image? source == some n then some source else none)
    ++ Text.lowerLong.filterMap fun (source, image) => if image.head? == some n then some source else none

/-- The code points that count as the same letter as a folded character. -/
def caseVariants (ascii : Bool) (c : Char) : List Nat :=
  if ascii then
    if 0x61 ≤ c.toNat && c.toNat ≤ 0x7a then [c.toNat, c.toNat - 0x20] else [c.toNat]
  else ((caseTwins.find? (·.contains c.toNat)).getD [c.toNat]).flatMap unfoldCase

namespace CharSet

def single (n : Nat) (ignoreCase ascii : Bool) : CharSet :=
  ⟨false, [.span n n], ignoreCase, ascii⟩

def hasMember (s : CharSet) (c : Char) : Bool :=
  let folded := if s.ignoreCase then foldCase s.ascii c else c
  let variants := if s.ignoreCase then caseVariants s.ascii folded else [c.toNat]
  s.members.any fun m => match m with
    | .span low high => variants.any fun n => low ≤ n && n ≤ high
    | .category category negated => category.contains s.ascii folded != negated

def contains (s : CharSet) (c : Char) : Bool :=
  s.hasMember c != s.negated

end CharSet
end Pattern
end ConfigLayers
