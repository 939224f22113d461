import ConfigLayers.Error

/-! Sets of natural numbers written as numbers and spans between commas, such as `2-4,9,27-`. -/
namespace ConfigLayers

/-- An inclusive span. -/
structure Span where
  low : Nat
  high : Nat
  low_le_high : low ≤ high
  deriving DecidableEq

/-- Spans in the order in which they were written. -/
structure Ranges where
  spans : List Span
  deriving DecidableEq

namespace Span

def contains (s : Span) (n : Int) : Bool :=
  s.low ≤ n && n ≤ s.high

def text (s : Span) : String :=
  if s.low = s.high then Integer.natText s.low else Integer.natText s.low ++ "-" ++ Integer.natText s.high

def le (a b : Span) : Bool :=
  a.low < b.low || (a.low == b.low && a.high ≤ b.high)

end Span

namespace Ranges

/-- One end of a span, or the default where there is only blank. -/
def bound (cs : List Char) (default : Nat) : Except Integer.Fault Nat :=
  match Text.trimChars cs with
  | [] => .ok default
  | digits =>
    if digits.all Text.isAsciiDigit then
      if digits.length ≤ Integer.maxDigits then .ok ((Integer.unsigned? digits).getD 0)
      else .error .tooManyDigits
    else .error .malformed

/-- One item: a number, or two ends around a hyphen, a missing end being 0 or the largest integer. -/
def span (item : List Char) : Except Integer.Fault Span :=
  let between (low high : Nat) : Except Integer.Fault Span :=
    if h : low ≤ high then .ok ⟨low, high, h⟩ else .error .malformed
  match Text.splitChars '-' item with
  | [number] => do
    let n ← bound number 0
    between n n
  | [low, high] => do
    let low ← bound low 0
    let high ← bound high Integer.maxInt.toNat
    between low high
  | _ => .error .malformed

def items (s : String) : List (List Char) :=
  ((Text.splitChars ',' s.toList).map Text.trimChars).filter (!·.isEmpty)

def parse (s : String) (key : Option String) : Except Error Ranges :=
  match (items s).mapM span with
  | .ok spans => .ok ⟨spans⟩
  | .error .malformed => .error (.invalidValue key s "integer range")
  | .error .tooManyDigits => .error .tooManyDigits

def isEmpty (r : Ranges) : Bool :=
  r.spans.isEmpty

def contains (r : Ranges) (n : Int) : Bool :=
  r.spans.any (·.contains n)

theorem contains_iff {r : Ranges} {x : Int} : r.contains x = true ↔ ∃ s ∈ r.spans, s.low ≤ x ∧ x ≤ s.high := by
  simp [contains, Span.contains]

def text (r : Ranges) : String :=
  Text.join "," (r.spans.map Span.text)

def shown (r : Ranges) : String :=
  "IntegerRanges(" ++ Text.quoted r.text ++ ")"

/-- At most `limit` members of spans sorted by start, from `next` on. -/
def walk : List Span → Nat → Nat → List Nat
  | [], _, _ => []
  | s :: rest, next, limit =>
    let start := max s.low next
    let count := min limit (s.high + 1 - start)
    List.range' start count ++ walk rest (max next (s.high + 1)) (limit - count)

def members (r : Ranges) (limit : Nat) : List Nat :=
  walk (r.spans.mergeSort Span.le) 0 limit

end Ranges
end ConfigLayers
