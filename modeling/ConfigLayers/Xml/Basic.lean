import ConfigLayers.Text.Blank

/-! Documents of extensible markup as trees, and the characters they may hold. -/
namespace ConfigLayers
namespace Xml

/-- A name with the namespace it belongs to, empty for none. -/
structure Name where
  space : String
  base : String
  deriving DecidableEq, Repr

namespace Name

def text (n : Name) : String :=
  if n.space == "" then n.base else "\x7b" ++ n.space ++ "\x7d" ++ n.base

def plain (base : String) : Name :=
  ⟨"", base⟩

end Name

/-- Character data, or an element with its attributes and content. -/
inductive Node where
  | text (content : String)
  | element (name : Name) (attributes : List (Name × String)) (content : List Node)

namespace Node

mutual

def innerText : Node → String
  | .text content => content
  | .element _ _ content => innerTexts content

def innerTexts : List Node → String
  | [] => ""
  | n :: rest => innerText n ++ innerTexts rest

end

end Node

def attribute? (attributes : List (Name × String)) (base : String) : Option String :=
  attributes.lookup (Name.plain base)

def isChar (c : Char) : Bool :=
  let n := c.toNat
  n == 0x09 || n == 0x0a || n == 0x0d || (0x20 ≤ n && n != 0xfffe && n != 0xffff)

def isSpace (c : Char) : Bool :=
  c == ' ' || c == '\t' || c == '\n' || c == '\r'

/-- Characters that a name may start with, but for the colon. -/
def isNameStart (c : Char) : Bool :=
  let n := c.toNat
  ('A' ≤ c && c ≤ 'Z') || c == '_' || ('a' ≤ c && c ≤ 'z') || (0xc0 ≤ n && n ≤ 0xd6) || (0xd8 ≤ n && n ≤ 0xf6)
    || (0xf8 ≤ n && n ≤ 0x2ff) || (0x370 ≤ n && n ≤ 0x37d) || (0x37f ≤ n && n ≤ 0x1fff)
    || n == 0x200c || n == 0x200d || (0x2070 ≤ n && n ≤ 0x218f) || (0x2c00 ≤ n && n ≤ 0x2fef)
    || (0x3001 ≤ n && n ≤ 0xd7ff) || (0xf900 ≤ n && n ≤ 0xfdcf) || (0xfdf0 ≤ n && n ≤ 0xfffd)
    || (0x10000 ≤ n && n ≤ 0xeffff)

def isNameChar (c : Char) : Bool :=
  let n := c.toNat
  isNameStart c || c == '-' || c == '.' || ('0' ≤ c && c ≤ '9') || n == 0xb7 || (0x300 ≤ n && n ≤ 0x36f)
    || n == 0x203f || n == 0x2040

end Xml
end ConfigLayers
