import ConfigLayers.Number.Binary64
import ConfigLayers.Text.Quoted

/-! JSON values, and their text in messages. -/
namespace ConfigLayers

inductive Json where
  | null
  | bool (b : Bool)
  | int (n : Int)
  | real (x : Float)
  | text (s : String)
  | list (items : List Json)
  | record (fields : List (String × Json))
  deriving Inhabited

namespace Json

mutual

/-- The text of a value in a message, with quoted texts and capitalised constants. -/
def literal : Json → String
  | .null => "None"
  | .bool true => "True"
  | .bool false => "False"
  | .int n => Integer.text n
  | .real x => Binary64.text x
  | .text s => Text.quoted s
  | .list items => "[" ++ literalItems items ++ "]"
  | .record fields => "\x7b" ++ literalFields fields ++ "\x7d"

def literalItems : List Json → String
  | [] => ""
  | [v] => literal v
  | v :: rest => literal v ++ ", " ++ literalItems rest

def literalFields : List (String × Json) → String
  | [] => ""
  | [(key, v)] => Text.quoted key ++ ": " ++ literal v
  | (key, v) :: rest => Text.quoted key ++ ": " ++ literal v ++ ", " ++ literalFields rest

end

def plain : Json → String
  | .text s => s
  | v => v.literal

/-- The name of a value's type in messages. -/
def typeName : Json → String
  | .null => "NoneType"
  | .bool _ => "bool"
  | .int _ => "int"
  | .real _ => "float"
  | .text _ => "str"
  | .list _ => "list"
  | .record _ => "dict"

def ofOption : Option String → Json
  | none => .null
  | some s => .text s

end Json
end ConfigLayers
