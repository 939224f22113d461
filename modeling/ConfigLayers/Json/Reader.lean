import ConfigLayers.Json.Basic
import ConfigLayers.Json.Quoted
import ConfigLayers.Number.Decimal
import ConfigLayers.Table

/-! Reads JSON. Not-a-number and the infinities are numbers; of two fields by one name the last counts, at
the place of the first. -/
namespace ConfigLayers
namespace Json

inductive Fault where
  | malformed
  | tooManyDigits
  | tooDeep
  deriving DecidableEq, Repr

def isSpace (c : Char) : Bool :=
  c == ' ' || c == '\t' || c == '\n' || c == '\r'

def dropSpaces (cs : List Char) : List Char :=
  cs.dropWhile isSpace

def constants : List (String × Json) :=
  [("null", .null), ("true", .bool true), ("false", .bool false), ("NaN", .real (0.0 / 0.0)),
    ("Infinity", .real (1.0 / 0.0)), ("-Infinity", .real (-1.0 / 0.0))]

/-- A fraction after the digits of a number, if there is one. -/
def takeFraction : List Char → List Char × List Char
  | '.' :: rest =>
    match rest.takeWhile Text.isAsciiDigit with
    | [] => ([], '.' :: rest)
    | digits => ('.' :: digits, rest.dropWhile Text.isAsciiDigit)
  | cs => ([], cs)

/-- An exponent after the digits of a number, if there is one. -/
def takeExponent (cs : List Char) : List Char × List Char :=
  let digitsAfter (mark rest : List Char) :=
    match rest.takeWhile Text.isAsciiDigit with
    | [] => ([], cs)
    | digits => (mark ++ digits, rest.dropWhile Text.isAsciiDigit)
  match cs with
  | e :: sign :: rest =>
    if e == 'e' || e == 'E' then
      if sign == '+' || sign == '-' then digitsAfter [e, sign] rest else digitsAfter [e] (sign :: rest)
    else ([], cs)
  | _ => ([], cs)

/-- The digits of an integer; a zero in front stands alone. -/
def takeWhole : List Char → List Char × List Char
  | '0' :: rest => (['0'], rest)
  | cs => (cs.takeWhile Text.isAsciiDigit, cs.dropWhile Text.isAsciiDigit)

def readNumber (cs : List Char) : Except Fault (Json × List Char) :=
  let (sign, cs) := match cs with
    | '-' :: rest => (['-'], rest)
    | cs => ([], cs)
  let (whole, cs) := takeWhole cs
  let (fraction, cs) := takeFraction cs
  let (exponent, cs) := takeExponent cs
  if whole.isEmpty then .error .malformed
  else if fraction.isEmpty && exponent.isEmpty then
    match Integer.decimal (sign ++ whole) with
    | .ok n => .ok (.int n, cs)
    | .error .tooManyDigits => .error .tooManyDigits
    | .error .malformed => .error .malformed
  else
    match Decimal.read? (sign ++ whole ++ fraction ++ exponent) with
    | some l => .ok (.real l.toFloat, cs)
    | none => .error .malformed

def readText (cs : List Char) : Except Fault (String × List Char) :=
  match readUnits? cs with
  | some (units, rest) => .ok (String.ofList (ofUnits units), rest)
  | none => .error .malformed

mutual

/-- A value of no more than so many levels. -/
def readValue : Nat → Nat → List Char → Except Fault (Json × List Char)
  | 0, _, _ => .error .malformed
  | fuel + 1, levels, cs =>
    match constants.find? fun (word, _) => word.toList.isPrefixOf cs with
    | some (word, v) => .ok (v, cs.drop word.length)
    | none => match cs, levels with
      | '"' :: rest, _ => (readText rest).map fun (s, rest) => (.text s, rest)
      | '[' :: _, 0 => .error .tooDeep
      | '\x7b' :: _, 0 => .error .tooDeep
      | '[' :: rest, levels + 1 => match dropSpaces rest with
        | ']' :: rest => .ok (.list [], rest)
        | rest => (readItems fuel levels rest).map fun (vs, rest) => (.list vs, rest)
      | '\x7b' :: rest, levels + 1 => match dropSpaces rest with
        | '\x7d' :: rest => .ok (.record [], rest)
        | rest => (readFields fuel levels rest).map fun (fs, rest) => (.record (Table.ofList fs).entries, rest)
      | cs, _ => readNumber cs

/-- Items up to a closing bracket. -/
def readItems : Nat → Nat → List Char → Except Fault (List Json × List Char)
  | 0, _, _ => .error .malformed
  | fuel + 1, levels, cs => do
    let (v, rest) ← readValue fuel levels cs
    match dropSpaces rest with
    | ']' :: rest => return ([v], rest)
    | ',' :: rest =>
      let (vs, rest) ← readItems fuel levels (dropSpaces rest)
      return (v :: vs, rest)
    | _ => .error .malformed

/-- Fields up to a closing brace. -/
def readFields : Nat → Nat → List Char → Except Fault (List (String × Json) × List Char)
  | 0, _, _ => .error .malformed
  | fuel + 1, levels, cs => do
    match cs with
    | '"' :: rest =>
      let (key, rest) ← readText rest
      match dropSpaces rest with
      | ':' :: rest =>
        let (v, rest) ← readValue fuel levels (dropSpaces rest)
        match dropSpaces rest with
        | '\x7d' :: rest => return ([(key, v)], rest)
        | ',' :: rest =>
          let (fs, rest) ← readFields fuel levels (dropSpaces rest)
          return ((key, v) :: fs, rest)
        | _ => .error .malformed
      | _ => .error .malformed
    | _ => .error .malformed

end

def read (room : Nat) (cs : List Char) : Except Fault Json := do
  let (v, rest) ← readValue (cs.length + 1) (room + 1) (dropSpaces cs)
  match dropSpaces rest with
  | [] => return v
  | _ => .error .malformed

end Json
end ConfigLayers
