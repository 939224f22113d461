import ConfigLayers.Error
import ConfigLayers.Number.Decimal
import ConfigLayers.Text.Case

/-! Typed readings of the text of a property. -/
namespace ConfigLayers
namespace Value

open Text

/-- Reads an integer between two bounds; `expected` names what was wanted when the text is none. -/
def bounded (low high : Int) (expected : String) (key : Option String) (s : String) : Except Error Int :=
  match Integer.ofText s with
  | .error .tooManyDigits => .error .tooManyDigits
  | .error .malformed => .error (.invalidValue key s expected)
  | .ok n => if low ≤ n ∧ n ≤ high then .ok n else .error (.invalidValue key s expected)

def int (s : String) (key : Option String) : Except Error Int :=
  bounded Integer.minInt Integer.maxInt "int" key s

def long (s : String) (key : Option String) : Except Error Int :=
  bounded Integer.minLong Integer.maxLong "long" key s

/-- The power of 1024 that a suffix stands for, in either case. -/
def binaryPower? (c : Char) : Option Nat :=
  match lowerChar c with
  | ['k'] => some 1
  | ['m'] => some 2
  | ['g'] => some 3
  | ['t'] => some 4
  | ['p'] => some 5
  | ['e'] => some 6
  | _ => none

/-- A number of bytes, with a suffix from `k` for 1024 up to `e` for its sixth power. -/
def byteCount (s : String) (key : Option String) : Except Error Int :=
  let cs := trimChars s.toList
  let plain (number : List Char) :=
    bounded Integer.minLong Integer.maxLong "byte count" key (String.ofList number)
  match cs.getLast? with
  | none => .error (.invalidValue key s "byte count")
  | some last => match binaryPower? last with
    | none => plain cs
    | some power => do
      let n ← plain cs.dropLast
      let total := n * (Nat.pow 1024 power : Nat)
      if Integer.minLong ≤ total ∧ total ≤ Integer.maxLong then return total
      else throw (.invalidValue key s "byte count")

def real (s : String) (key : Option String) : Except Error Float :=
  match Decimal.read? (trimChars s.toList) with
  | some l => .ok l.toFloat
  | none => .error (.invalidValue key s "float")

def boolean? (s : String) : Option Bool :=
  let word := lower (trim s)
  if word == "true" then some true else if word == "false" then some false else none

def items (s : String) : List String :=
  if s == "" then [] else splitOn ',' s

def trimmedItems (s : String) : List String :=
  ((splitOn ',' s).map trim).filter (· != "")

end Value
end ConfigLayers
