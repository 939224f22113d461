import ConfigLayers.Text.Digit

/-! Texts between quotes in JSON: units of sixteen bits, most of them written as they are. -/
namespace ConfigLayers
namespace Json

/-- The units of a character: itself, or two surrogates for one beyond sixteen bits. -/
def unitsOf (c : Char) : List Nat :=
  let n := c.toNat
  if n < 0x10000 then [n] else [0xd800 + (n - 0x10000) / 0x400, 0xdc00 + (n - 0x10000) % 0x400]

/-- The characters of units. A surrogate without its partner stands for no character. -/
def ofUnits : List Nat → List Char
  | [] => []
  | [u] => [if 0xd800 ≤ u && u < 0xe000 then Char.ofNat 0xfffd else Char.ofNat u]
  | u :: v :: rest =>
    if 0xd800 ≤ u && u < 0xdc00 && 0xdc00 ≤ v && v < 0xe000 then
      Char.ofNat (0x10000 + (u - 0xd800) * 0x400 + (v - 0xdc00)) :: ofUnits rest
    else (if 0xd800 ≤ u && u < 0xe000 then Char.ofNat 0xfffd else Char.ofNat u) :: ofUnits (v :: rest)

def escapes : List (Char × Nat) :=
  [('"', 0x22), ('\\', 0x5c), ('/', 0x2f), ('b', 0x08), ('f', 0x0c), ('n', 0x0a), ('r', 0x0d), ('t', 0x09)]

/-- The units up to a closing quote, and what follows it. Control characters are refused. -/
def readUnits? : List Char → Option (List Nat × List Char)
  | [] => none
  | '"' :: rest => some ([], rest)
  | '\\' :: 'u' :: a :: b :: c :: d :: rest =>
    match Text.ofDigits? 16 Text.hexDigit? 0 [a, b, c, d] with
    | some u => (readUnits? rest).map fun (us, rest) => (u :: us, rest)
    | none => none
  | '\\' :: c :: rest =>
    match escapes.lookup c with
    | some u => (readUnits? rest).map fun (us, rest) => (u :: us, rest)
    | none => none
  | c :: rest =>
    if c.toNat < 0x20 then none else (readUnits? rest).map fun (us, rest) => (c.toNat :: us, rest)

def isPlain (c : Char) : Bool :=
  0x20 ≤ c.toNat && c.toNat < 0x7f && c != '"' && c != '\\'

def writtenUnit (u : Nat) : List Char :=
  '\\' :: 'u' :: Text.hexFixed u 4

/-- A character between quotes, in ASCII. -/
def written (c : Char) : List Char :=
  if isPlain c then [c]
  else match c with
    | '"' => ['\\', '"']
    | '\\' => ['\\', '\\']
    | '\n' => ['\\', 'n']
    | '\r' => ['\\', 'r']
    | '\t' => ['\\', 't']
    | '\x08' => ['\\', 'b']
    | '\x0c' => ['\\', 'f']
    | c => (unitsOf c).flatMap writtenUnit

def quoted (s : String) : String :=
  String.ofList ('"' :: s.toList.flatMap written ++ ['"'])

end Json
end ConfigLayers
