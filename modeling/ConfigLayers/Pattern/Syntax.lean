import ConfigLayers.Pattern.CharSet

/-! Regular expressions as trees. -/
namespace ConfigLayers
namespace Pattern

/-- Conditions on a position in a text. -/
inductive Anchor where
  | textStart
  | lineStart
  | textEnd
  | finalLineEnd
  | lineEnd
  | wordEdge (negated ascii : Bool)
  deriving DecidableEq, Repr

/-- Whether a repetition tries more or fewer rounds first, or keeps what it has taken. -/
inductive Mode where
  | greedy
  | lazy
  | possessive
  deriving DecidableEq, Repr

/-- The least and the greatest number of characters; none where there is no greatest. -/
structure Width where
  least : Nat
  greatest : Option Nat
  deriving DecidableEq, Repr

namespace Width

def add (a b : Width) : Width :=
  ⟨a.least + b.least, a.greatest.bind fun m => b.greatest.map (m + ·)⟩

def union (a b : Width) : Width :=
  ⟨min a.least b.least, a.greatest.bind fun m => b.greatest.map (max m ·)⟩

def times (a : Width) (least : Nat) (greatest : Option Nat) : Width :=
  ⟨a.least * least, match a.greatest, greatest with
    | some m, some n => some (m * n)
    | some 0, none => some 0
    | _, _ => none⟩

def fixed? (a : Width) : Option Nat :=
  if a.greatest == some a.least then some a.least else none

end Width

inductive Node where
  | empty
  | seq (first rest : Node)
  | alt (first second : Node)
  | one (set : CharSet)
  | anchor (anchor : Anchor)
  | group (index : Nat) (body : Node)
  | backReference (index : Nat) (ignoreCase ascii : Bool) (width : Width)
  | lookAhead (negated : Bool) (body : Node)
  | lookBehind (negated : Bool) (width : Nat) (body : Node)
  | atomic (body : Node)
  | loop (mode : Mode) (least : Nat) (greatest : Option Nat) (body : Node)
  | ifGroup (index : Nat) (set unset : Node)
  deriving DecidableEq, Repr

namespace Node

def width : Node → Width
  | empty | anchor _ | lookAhead .. | lookBehind .. => ⟨0, some 0⟩
  | seq a b => a.width.add b.width
  | alt a b => a.width.union b.width
  | one _ => ⟨1, some 1⟩
  | group _ a => a.width
  | backReference _ _ _ w => w
  | atomic a => a.width
  | loop _ least greatest a => a.width.times least greatest
  | ifGroup _ a b => a.width.union b.width

end Node
end Pattern
end ConfigLayers
