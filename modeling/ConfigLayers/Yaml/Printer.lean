import ConfigLayers.Json.Basic
import ConfigLayers.Yaml.Scalar

/-! Values as YAML in block style: a field or an item on each line. -/
namespace ConfigLayers
namespace Yaml

/-- The text of a number: a point comes before an exponent. -/
def realText (x : Float) : List Char :=
  if x.isNaN then ".nan".toList
  else if x.isInf then if x < 0.0 then "-.inf".toList else ".inf".toList
  else
    let cs := (Binary64.text x).toList
    if cs.contains '.' then cs
    else cs.takeWhile (· != 'e') ++ (if cs.contains 'e' then ".0".toList else []) ++ cs.dropWhile (· != 'e')

mutual

/-- A value behind a mark that ends in a column, inside a block with some indentation. -/
def behind (indent column : Nat) : Json → List Char
  | .null => " null\n".toList
  | .bool b => (if b then " true\n" else " false\n").toList
  | .int n => ' ' :: (Integer.text n).toList ++ ['\n']
  | .real x => ' ' :: realText x ++ ['\n']
  | .text s => ' ' :: scalar (indent + 2) (column + 1) s ++ ['\n']
  | .list [] => " []\n".toList
  | .list (v :: rest) => '\n' :: items indent (v :: rest)
  | .record [] => " \x7b\x7d\n".toList
  | .record (f :: rest) => '\n' :: spaces (indent + 2) ++ fields (indent + 2) (f :: rest)

def item (indent : Nat) : Json → List Char
  | .record (f :: rest) => ' ' :: fields (indent + 2) (f :: rest)
  | v => behind indent (indent + 1) v

def items (indent : Nat) : List Json → List Char
  | [] => []
  | v :: rest => spaces indent ++ '-' :: item indent v ++ items indent rest

def fields (indent : Nat) : List (String × Json) → List Char
  | [] => []
  | [(key, v)] => key.toList ++ ':' :: behind indent (indent + key.length + 1) v
  | (key, v) :: rest =>
    key.toList ++ ':' :: behind indent (indent + key.length + 1) v ++ spaces indent ++ fields indent rest

end

def document (record : List (String × Json)) : String :=
  String.ofList (fields 0 record)

end Yaml
end ConfigLayers
