/-! Sets of code points given by disjoint spans in ascending order, searched by halving. -/
namespace ConfigLayers
namespace Text

/-- Disjoint inclusive spans of code points in ascending order. -/
structure CodeRanges where
  spans : Array (Nat × Nat)

namespace CodeRanges

/-- Searches the spans with index in `[low, high)`. -/
def search (spans : Array (Nat × Nat)) (n low high : Nat) : Bool :=
  if _ : low < high then
    let middle := (low + high) / 2
    match spans[middle]? with
    | none => false
    | some (first, last) =>
      if n < first then search spans n low middle
      else if last < n then search spans n (middle + 1) high
      else true
  else false
termination_by high - low

def contains (r : CodeRanges) (n : Nat) : Bool :=
  search r.spans n 0 r.spans.size

end CodeRanges
end Text
end ConfigLayers
