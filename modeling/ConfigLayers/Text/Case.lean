import ConfigLayers.Text.CaseTable

/-! Full case mapping of texts. A capital sigma at the end of a word becomes the final small sigma. -/
namespace ConfigLayers
namespace Text

def mapCase (runs : Array CaseRun) (long : List (Nat × List Nat)) (c : Char) : List Char :=
  match runs.findSome? fun r => r.image? c.toNat with
  | some n => [Char.ofNat n]
  | none => match long.lookup c.toNat with
    | some ns => ns.map Char.ofNat
    | none => [c]

def lowerChar (c : Char) : List Char :=
  mapCase lowerRuns lowerLong c

def upperChar (c : Char) : List Char :=
  mapCase upperRuns upperLong c

/-- The lower-case form of one character, cut to its first character. -/
def lowerFirst (c : Char) : Char :=
  (lowerChar c).headD c

def nextIsCased : List Char → Bool
  | [] => false
  | c :: cs => if caseIgnorables.contains c.toNat then nextIsCased cs else casedLetters.contains c.toNat

/-- Lower-cases a text whose characters before it are given in reverse. -/
def lowerAfter (before : List Char) : List Char → List Char
  | [] => []
  | c :: cs =>
    (if c == 'Σ' then (if nextIsCased before && !nextIsCased cs then ['ς'] else ['σ']) else lowerChar c)
      ++ lowerAfter (c :: before) cs

def lower (s : String) : String :=
  String.ofList (lowerAfter [] s.toList)

def upper (s : String) : String :=
  String.ofList (s.toList.flatMap upperChar)

end Text
end ConfigLayers
