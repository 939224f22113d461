import ConfigLayers.Text.Digit
import ConfigLayers.Xml.Basic

/-! Trees as documents: elements that hold elements have them on lines of their own. -/
namespace ConfigLayers
namespace Xml

def writtenChar (c : Char) : List Char :=
  match c with
  | '&' => "&amp;".toList
  | '<' => "&lt;".toList
  | '>' => "&gt;".toList
  | '\r' => "&#13;".toList
  | c => [c]

def writtenText (s : String) : String :=
  String.ofList (s.toList.flatMap writtenChar)

def isLegal (s : String) : Bool :=
  s.toList.all isChar

def indentation (depth : Nat) : String :=
  String.ofList (List.replicate (2 * depth) ' ')

namespace Node

def isElement : Node → Bool
  | .text _ => false
  | .element .. => true

mutual

/-- A node so many elements deep; attributes and namespaces are not written. -/
def written (depth : Nat) : Node → String
  | .text content => writtenText content
  | .element name _ content =>
    let tag := name.base
    if content.isEmpty then "<" ++ tag ++ "/>"
    else if content.all isElement then
      "<" ++ tag ++ ">\n" ++ writtenLines (depth + 1) content ++ indentation depth ++ "</" ++ tag ++ ">"
    else "<" ++ tag ++ ">" ++ writtenInline (depth + 1) content ++ "</" ++ tag ++ ">"

def writtenLines (depth : Nat) : List Node → String
  | [] => ""
  | n :: rest => indentation depth ++ written depth n ++ "\n" ++ writtenLines depth rest

def writtenInline (depth : Nat) : List Node → String
  | [] => ""
  | n :: rest => written depth n ++ writtenInline depth rest

end

def document (n : Node) : String :=
  "<?xml version='1.0' encoding='UTF-8'?>\n" ++ written 0 n ++ "\n"

end Node
end Xml
end ConfigLayers
