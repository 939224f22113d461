import ConfigLayers.Text.Blank
import ConfigLayers.Text.Digit

/-! Texts of integers: decimal with an optional sign, in the digits of any script, or hexadecimal after
`0x` with an optional minus. -/
namespace ConfigLayers
namespace Integer

/-- The most digits a decimal text may have. -/
def maxDigits : Nat := 4300

inductive Fault where
  | malformed
  | tooManyDigits
  deriving DecidableEq, Repr

def unsigned? : List Char → Option Nat
  | [] => none
  | c :: cs => Text.ofDigits? 10 Text.decimalDigit? 0 (c :: cs)

def unsignedHex? : List Char → Option Nat
  | [] => none
  | c :: cs => Text.ofDigits? 16 Text.hexDigit? 0 (c :: cs)

/-- The sign and the digits after it. -/
def splitSign : List Char → Bool × List Char
  | '-' :: cs => (true, cs)
  | '+' :: cs => (false, cs)
  | cs => (false, cs)

def signed (negative : Bool) (n : Nat) : Int :=
  if negative then -(n : Int) else n

def hex? : List Char → Option Int
  | '-' :: '0' :: x :: cs => if x == 'x' || x == 'X' then (unsignedHex? cs).map (signed true) else none
  | '0' :: x :: cs => if x == 'x' || x == 'X' then (unsignedHex? cs).map (signed false) else none
  | _ => none

def decimal (cs : List Char) : Except Fault Int :=
  let (negative, digits) := splitSign cs
  match unsigned? digits with
  | none => .error .malformed
  | some n => if digits.length ≤ maxDigits then .ok (signed negative n) else .error .tooManyDigits

def read (cs : List Char) : Except Fault Int :=
  match hex? cs with
  | some n => .ok n
  | none => decimal cs

def ofText (s : String) : Except Fault Int :=
  read (Text.trimChars s.toList)

def minInt : Int := -2147483648

def maxInt : Int := 2147483647

def minLong : Int := -9223372036854775808

def maxLong : Int := 9223372036854775807

def digitsOf (n : Nat) : List Char :=
  if n < 10 then [Text.hexChar n] else digitsOf (n / 10) ++ [Text.hexChar (n % 10)]

def natText (n : Nat) : String :=
  String.ofList (digitsOf n)

def text (n : Int) : String :=
  if n < 0 then "-" ++ natText n.natAbs else natText n.natAbs

end Integer
end ConfigLayers
