import ConfigLayers.Pattern.Parser

/-! Matching by trying in order: the leftmost position first, alternatives as written, and repetitions by
their mode. -/
namespace ConfigLayers
namespace Pattern

/-- A position and the groups captured before it, the newest first. -/
structure Place where
  position : Nat
  captures : List (Nat × Nat × Nat)

abbrev Continuation := Place → Option Place

namespace Anchor

def wordAt (ascii : Bool) (text : Array Char) (i : Nat) : Bool :=
  match text[i]? with
  | some c => Category.word.contains ascii c
  | none => false

def holds (text : Array Char) (i : Nat) : Anchor → Bool
  | textStart => i == 0
  | lineStart => i == 0 || text[i - 1]? == some '\n'
  | textEnd => i == text.size
  | finalLineEnd => i == text.size || (i + 1 == text.size && text[i]? == some '\n')
  | lineEnd => i == text.size || text[i]? == some '\n'
  | wordEdge negated ascii =>
    let before := i != 0 && wordAt ascii text (i - 1)
    text.size != 0 && ((before != wordAt ascii text i) != negated)

end Anchor

/-- Rounds of a greedy or lazy repetition. After the least number a round must not start where the last one
did. -/
def rounds (body : Continuation → Continuation) (isLazy : Bool) (least : Nat) (greatest : Option Nat)
    (k : Continuation) : Nat → Nat → Option Nat → Continuation
  | 0, _, _, _ => none
  | fuel + 1, count, last, p =>
    if count < least then body (rounds body isLazy least greatest k fuel (count + 1) last) p
    else if last == some p.position || greatest.any (· ≤ count) then k p
    else if isLazy then
      match k p with
      | some q => some q
      | none => body (rounds body isLazy least greatest k fuel (count + 1) (some p.position)) p
    else
      match body (rounds body isLazy least greatest k fuel (count + 1) (some p.position)) p with
      | some q => some q
      | none => k p

/-- Rounds of a possessive repetition: each keeps the first way in which it matches. -/
def keptRounds (body : Continuation → Continuation) (least : Nat) (greatest : Option Nat) :
    Nat → Nat → Option Nat → Continuation
  | 0, _, _, _ => none
  | fuel + 1, count, last, p =>
    if count < least then (body some p).bind (keptRounds body least greatest fuel (count + 1) last)
    else if last == some p.position || greatest.any (· ≤ count) then some p
    else match body some p with
      | some q => keptRounds body least greatest fuel (count + 1) (some p.position) q
      | none => some p

/-- Where the text from `i` on repeats the text between two positions. -/
def repeatsFrom (text : Array Char) (same : Char → Char → Bool) (start i : Nat) : Nat → Bool
  | 0 => true
  | length + 1 =>
    match text[start]?, text[i]? with
    | some a, some b => same a b && repeatsFrom text same (start + 1) (i + 1) length
    | _, _ => false

namespace Node

def run (text : Array Char) : Node → Continuation → Continuation
  | empty, k, p => k p
  | seq a b, k, p => a.run text (b.run text k) p
  | alt a b, k, p =>
    match a.run text k p with
    | some q => some q
    | none => b.run text k p
  | one set, k, p =>
    match text[p.position]? with
    | some c => if set.contains c then k { p with position := p.position + 1 } else none
    | none => none
  | anchor a, k, p => if a.holds text p.position then k p else none
  | group index a, k, p =>
    a.run text (fun q => k { q with captures := (index, p.position, q.position) :: q.captures }) p
  | backReference index ignoreCase ascii _, k, p =>
    match p.captures.lookup index with
    | some (start, stop) =>
      let same (a b : Char) := a == b || (ignoreCase && foldCase ascii a == foldCase ascii b)
      if repeatsFrom text same start p.position (stop - start) then
        k { p with position := p.position + (stop - start) }
      else none
    | none => none
  | lookAhead negated a, k, p =>
    match a.run text some p with
    | some q => if negated then none else k { q with position := p.position }
    | none => if negated then k p else none
  | lookBehind negated width a, k, p =>
    let found := if width ≤ p.position then a.run text some { p with position := p.position - width } else none
    match found with
    | some q => if negated then none else k { q with position := p.position }
    | none => if negated then k p else none
  | atomic a, k, p => (a.run text some p).bind k
  | loop mode least greatest a, k, p =>
    let fuel := least + (text.size - p.position) + 3
    match mode with
    | .greedy => rounds (a.run text) false least greatest k fuel 0 none p
    | .lazy => rounds (a.run text) true least greatest k fuel 0 none p
    | .possessive => (keptRounds (a.run text) least greatest fuel 0 none p).bind k
  | ifGroup index set unset, k, p =>
    if (p.captures.lookup index).isSome then set.run text k p else unset.run text k p

end Node

/-- The first match that starts at `start` or one of the `more` positions after it. -/
def searchFrom (node : Node) (text : Array Char) (start : Nat) : Nat → Option (Nat × Nat)
  | 0 => (node.run text some ⟨start, []⟩).map fun p => (start, p.position)
  | more + 1 =>
    match node.run text some ⟨start, []⟩ with
    | some p => some (start, p.position)
    | none => searchFrom node text (start + 1) more

end Pattern

/-- A regular expression with its text. -/
structure Pattern where
  source : String
  node : Pattern.Node
  deriving DecidableEq

namespace Pattern

def compile? (source : String) : Option Pattern :=
  (parse? source).map fun node => ⟨source, node⟩

/-- The start and end of the leftmost match. -/
def search (p : Pattern) (s : String) : Option (Nat × Nat) :=
  let text := s.toList.toArray
  searchFrom p.node text 0 text.size

def isFoundIn (p : Pattern) (s : String) : Bool :=
  (p.search s).isSome

end Pattern
end ConfigLayers
