import ConfigLayers.Number.Binary64

/-! Texts of decimal fractions: an optional sign, digits with an optional point, an optional exponent. -/
namespace ConfigLayers
namespace Decimal

/-- The number `digits · 10 ^ exponent` with a sign. -/
structure Literal where
  negative : Bool
  digits : Nat
  exponent : Int

def takeDigits (cs : List Char) : List Char × List Char :=
  cs.span Text.isDecimalDigit

def value (digits : List Char) : Nat :=
  (Text.ofDigits? 10 Text.decimalDigit? 0 digits).getD 0

/-- What follows the digits: nothing, or `e` and an integer. -/
def exponent? : List Char → Option Int
  | [] => some 0
  | c :: cs =>
    if c == 'e' || c == 'E' then
      let (negative, digits) := Integer.splitSign cs
      (Integer.unsigned? digits).map (Integer.signed negative)
    else none

def unsigned? (negative : Bool) (cs : List Char) : Option Literal :=
  let (whole, rest) := takeDigits cs
  match rest with
  | '.' :: rest =>
    let (fraction, tail) := takeDigits rest
    if whole.isEmpty && fraction.isEmpty then none
    else (exponent? tail).map fun e => ⟨negative, value (whole ++ fraction), e - fraction.length⟩
  | tail => if whole.isEmpty then none else (exponent? tail).map fun e => ⟨negative, value whole, e⟩

def read? (cs : List Char) : Option Literal :=
  let (negative, rest) := Integer.splitSign cs
  unsigned? negative rest

def Literal.toFloat (l : Literal) : Float :=
  let x := Binary64.ofDecimal l.digits l.exponent
  if l.negative then -x else x

end Decimal
end ConfigLayers
