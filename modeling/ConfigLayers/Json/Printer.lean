import ConfigLayers.Json.Basic
import ConfigLayers.Json.Quoted
import ConfigLayers.Text.Blank

/-! JSON texts, on one line or with a field on each line. -/
namespace ConfigLayers
namespace Json

def realText (x : Float) : String :=
  if x.isNaN then "NaN"
  else if x.isInf then if x < 0.0 then "-Infinity" else "Infinity"
  else Binary64.text x

mutual

/-- The text of a value on one line. -/
def inline : Json → String
  | .null => "null"
  | .bool b => if b then "true" else "false"
  | .int n => Integer.text n
  | .real x => realText x
  | .text s => quoted s
  | .list items => "[" ++ inlineItems items ++ "]"
  | .record fields => "\x7b" ++ inlineFields fields ++ "\x7d"

def inlineItems : List Json → String
  | [] => ""
  | [v] => inline v
  | v :: rest => inline v ++ ", " ++ inlineItems rest

def inlineFields : List (String × Json) → String
  | [] => ""
  | [(key, v)] => quoted key ++ ": " ++ inline v
  | (key, v) :: rest => quoted key ++ ": " ++ inline v ++ ", " ++ inlineFields rest

end

def textLines (fields : List (String × String)) : String :=
  if fields.isEmpty then "\x7b\x7d"
  else "\x7b\n" ++ Text.join ",\n" (fields.map fun (key, s) => "  " ++ quoted key ++ ": " ++ quoted s) ++ "\n\x7d"

end Json
end ConfigLayers
