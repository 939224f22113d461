import ConfigLayers.Text.Utf8
import ConfigLayers.Xml.Scan

/-! The characters that the bytes of a document stand for, by its byte order mark, its first bytes or the
encoding that it declares. -/
namespace ConfigLayers
namespace Xml

inductive Encoding where
  | utf8
  | utf16 (bigEndian : Bool)
  | latin1
  | windows1252
  | ascii
  deriving DecidableEq, Repr

namespace Encoding

/-- Encodings of eight bits by their names. UTF-16 is known by its bytes alone, so it cannot be declared in
a text of eight bits. -/
def ofName? (name : String) : Option Encoding :=
  let upper := String.ofList (name.toList.map Char.toUpper)
  if ["UTF-8", "UTF8"].contains upper then some utf8
  else if ["ISO-8859-1", "ISO8859-1", "ISO_8859-1", "ISO-LATIN-1", "ISO LATIN 1", "LATIN1", "LATIN-1", "L1",
      "ISO88591"].contains upper then some latin1
  else if ["WINDOWS-1252", "CP1252", "CP-1252", "MS-ANSI"].contains upper then some windows1252
  else if ["US-ASCII", "ASCII", "US", "ISO646-US", "ANSI_X3.4-1968"].contains upper then some ascii
  else none

/-- The characters of the bytes from 0x80 to 0x9f in the code page 1252, zero where there is none. -/
def page1252 : List Nat := [
    0x20ac, 0, 0x201a, 0x192, 0x201e, 0x2026, 0x2020, 0x2021, 0x2c6, 0x2030, 0x160, 0x2039, 0x152, 0, 0x17d, 0,
    0, 0x2018, 0x2019, 0x201c, 0x201d, 0x2022, 0x2013, 0x2014, 0x2dc, 0x2122, 0x161, 0x203a, 0x153, 0, 0x17e,
    0x178]

def char1252? (b : UInt8) : Option Char :=
  let n := b.toNat
  if 0x80 ≤ n && n < 0xa0 then
    match page1252[n - 0x80]? with
    | some 0 | none => none
    | some m => some (Char.ofNat m)
  else some (Char.ofNat n)

def units16 (bigEndian : Bool) : Bytes → Option (List Nat)
  | [] => some []
  | [_] => none
  | a :: b :: rest =>
    let unit := if bigEndian then a.toNat * 256 + b.toNat else b.toNat * 256 + a.toNat
    (units16 bigEndian rest).map (unit :: ·)

/-- Characters of units of sixteen bits; two surrogates in order form one. -/
def ofUnits16 : List Nat → Option (List Char)
  | [] => some []
  | u :: rest =>
    if 0xd800 ≤ u && u < 0xdc00 then
      match rest with
      | v :: rest =>
        if 0xdc00 ≤ v && v < 0xe000 then
          (ofUnits16 rest).map (Char.ofNat (0x10000 + (u - 0xd800) * 0x400 + (v - 0xdc00)) :: ·)
        else none
      | [] => none
    else if 0xdc00 ≤ u && u < 0xe000 then none
    else (ofUnits16 rest).map (Char.ofNat u :: ·)

def decode? (e : Encoding) (bs : Bytes) : Option (List Char) :=
  match e with
  | utf8 => Utf8.decode? bs
  | utf16 bigEndian => (units16 bigEndian bs).bind ofUnits16
  | latin1 => some (bs.map fun b => Char.ofNat b.toNat)
  | windows1252 => bs.mapM char1252?
  | ascii => bs.mapM fun b => if b.toNat < 0x80 then some (Char.ofNat b.toNat) else none

end Encoding

/-- Every line end as a single line feed. -/
def normalizeLines : List Char → List Char
  | [] => []
  | '\r' :: '\n' :: cs => '\n' :: normalizeLines cs
  | '\r' :: cs => '\n' :: normalizeLines cs
  | c :: cs => c :: normalizeLines cs

/-- The bytes behind a byte order mark, and the encoding that the first bytes show. -/
def detect : Bytes → Option Encoding × Bytes
  | 0xef :: 0xbb :: 0xbf :: rest => (some .utf8, rest)
  | 0xfe :: 0xff :: rest => (some (.utf16 true), rest)
  | 0xff :: 0xfe :: rest => (some (.utf16 false), rest)
  | bs@(0x00 :: 0x3c :: 0x00 :: 0x3f :: _) => (some (.utf16 true), bs)
  | bs@(0x3c :: 0x00 :: 0x3f :: 0x00 :: _) => (some (.utf16 false), bs)
  | bs => (none, bs)

/-- The characters of a document. Where the encoding is not forced and the first bytes show none, the
declaration read by `declared` tells, or else it is UTF-8. -/
def characters? (forced : Bool) (declared : Scan Scan.Declaration) (bs : Bytes) : Option (List Char) := do
  let (shown, rest) := detect bs
  let encoding ←
    if forced then some Encoding.utf8
    else match shown with
      | some e => some e
      | none =>
        match declared.read? (rest.map fun b => Char.ofNat b.toNat) with
        | some ⟨some name, _⟩ => Encoding.ofName? name
        | _ => some .utf8
  let rest := if forced && shown != some .utf8 then bs else rest
  (encoding.decode? rest).map normalizeLines

end Xml
end ConfigLayers
