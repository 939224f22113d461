import ConfigLayers.Number.Integer

/-! Binary floating-point numbers of 64 bits: the nearest one to a decimal, and the shortest decimal that
reads back as the same number. -/
namespace ConfigLayers
namespace Binary64

/-- The number nearest to `digits · 10 ^ exponent`. Beyond four hundred decimal places to either side it
is infinite or zero whatever the digits are. -/
def ofDecimal (digits : Nat) (exponent : Int) : Float :=
  let places : Int := (Integer.digitsOf digits).length + exponent
  if digits = 0 || places < -400 then 0.0
  else if places > 400 then 1.0 / 0.0
  else if exponent < 0 then Float.ofScientific digits true exponent.natAbs
  else Float.ofScientific digits false exponent.natAbs

/-- A finite number other than zero as `mantissa · 2 ^ exponent`, and whether the gap below it is half the
gap above. -/
structure Parts where
  mantissa : Nat
  exponent : Int
  narrowBelow : Bool

def parts (bits : UInt64) : Parts :=
  let fraction : Nat := bits.toNat % 0x10000000000000
  let biased : Nat := bits.toNat / 0x10000000000000 % 2048
  if biased = 0 then ⟨fraction, -1074, false⟩
  else ⟨0x10000000000000 + fraction, (biased : Int) - 1075, fraction = 0 && biased > 1⟩

/-- A positive rational number. -/
structure Ratio where
  num : Nat
  den : Nat

def Ratio.le (a b : Ratio) : Bool :=
  a.num * b.den ≤ b.num * a.den

def Ratio.lt (a b : Ratio) : Bool :=
  a.num * b.den < b.num * a.den

def Ratio.scaled (n base : Nat) (e : Int) : Ratio :=
  if e < 0 then ⟨n, Nat.pow base e.natAbs⟩ else ⟨n * Nat.pow base e.natAbs, 1⟩

/-- The numbers that read back as given: those between the midpoints to the neighbours, with the
midpoints when the mantissa is even. -/
def readsBack (p : Parts) (x : Ratio) : Bool :=
  let low := if p.narrowBelow then Ratio.scaled (4 * p.mantissa - 1) 2 (p.exponent - 2)
    else Ratio.scaled (2 * p.mantissa - 1) 2 (p.exponent - 1)
  let high := Ratio.scaled (2 * p.mantissa + 1) 2 (p.exponent - 1)
  if p.mantissa % 2 = 0 then low.le x && x.le high else low.lt x && x.lt high

/-- Multiples of `10 ^ unit` next to the number on either side, the nearer one first; of two equally near
the one with the even last digit. -/
def neighbours (p : Parts) (unit : Int) : List Nat :=
  let v := Ratio.scaled p.mantissa 2 p.exponent
  let u := Ratio.scaled 1 10 unit
  let num := v.num * u.den
  let den := v.den * u.num
  let q := num / den
  let rest := 2 * (num % den)
  if rest < den || (rest = den && q % 2 = 0) then [q, q + 1] else [q + 1, q]

/-- Tries coarser grids first, from `10 ^ unit` down. -/
def shortestFrom (p : Parts) (unit : Int) : Nat → Nat × Int
  | 0 => (p.mantissa, 0)
  | fuel + 1 => match (neighbours p unit).find? fun q => 0 < q && readsBack p (Ratio.scaled q 10 unit) with
    | some q => (q, unit)
    | none => shortestFrom p (unit - 1) fuel

/-- The exponent of the leading decimal digit, or one more. -/
def leadingPlace (p : Parts) : Int :=
  let v := Ratio.scaled p.mantissa 2 p.exponent
  ((Integer.digitsOf v.num).length : Int) - (Integer.digitsOf v.den).length + 1

/-- Digits and the power of ten of the last one, as few digits as read back. -/
def shortest (p : Parts) : Nat × Int :=
  shortestFrom p (leadingPlace p) 24

def dropZeros : List Char → List Char :=
  fun ds => (ds.reverse.dropWhile (· == '0')).reverse

/-- Positional notation with at least one decimal when the decimal exponent is from -4 to 15, else the
exponent with sign and at least two digits. -/
def layout (digits : List Char) (place : Int) : List Char :=
  let exponent := place - 1
  if -4 ≤ exponent && exponent < 16 then
    if place ≤ 0 then '0' :: '.' :: List.replicate place.natAbs '0' ++ digits
    else if digits.length ≤ place.natAbs then
      digits ++ List.replicate (place.natAbs - digits.length) '0' ++ ['.', '0']
    else digits.take place.natAbs ++ '.' :: digits.drop place.natAbs
  else
    let written := Integer.digitsOf exponent.natAbs
    let mantissa := match digits with
      | first :: second :: rest => first :: '.' :: second :: rest
      | short => short
    mantissa ++ 'e' :: (if exponent < 0 then '-' else '+')
      :: (if written.length < 2 then '0' :: written else written)

/-- The text of a number: the fewest digits that read back. -/
def text (x : Float) : String :=
  let bits := x.toBits
  let sign := if bits.toNat ≥ 0x8000000000000000 then "-" else ""
  if bits.toNat / 0x10000000000000 % 2048 = 2047 then
    if bits.toNat % 0x10000000000000 = 0 then sign ++ "inf" else "nan"
  else
    let p := parts bits
    if p.mantissa = 0 then sign ++ "0.0"
    else
      let (q, unit) := shortest p
      let digits := Integer.digitsOf q
      sign ++ String.ofList (layout (dropZeros digits) (digits.length + unit))

end Binary64
end ConfigLayers
