import ConfigLayers.Text.Blank

/-! Paths of files as texts: steps between slashes, without empty and `.` steps. -/
namespace ConfigLayers

/-- The slashes at the start, none for a path that is relative, and the steps. -/
structure Path where
  root : String
  steps : List String
  deriving DecidableEq

namespace Path

/-- Two slashes at the start are kept; any other number of them counts as one. -/
def rootOf (cs : List Char) : String :=
  match (cs.takeWhile (· == '/')).length with
  | 0 => ""
  | 2 => "//"
  | _ => "/"

def stepsOf (s : String) : List String :=
  (Text.splitOn '/' s).filter fun step => step != "" && step != "."

def parse (s : String) : Path :=
  ⟨rootOf s.toList, stepsOf s⟩

def isAbsolute (p : Path) : Bool :=
  p.root != ""

def text (p : Path) : String :=
  if p.root == "" && p.steps.isEmpty then "." else p.root ++ Text.join "/" p.steps

def join (p q : Path) : Path :=
  if q.isAbsolute then q else ⟨p.root, p.steps ++ q.steps⟩

def parent (p : Path) : Path :=
  { p with steps := p.steps.dropLast }

def extend (p : Path) (ending : String) : Path :=
  match p.steps.getLast? with
  | some last => { p with steps := p.steps.dropLast ++ [last ++ ending] }
  | none => p

/-- Takes back one step for each `..` step, but none above the root. -/
def resolveSteps (steps : List String) : List String :=
  (steps.foldl (fun kept step => if step == ".." then kept.drop 1 else step :: kept) []).reverse

/-- The absolute path that a text means in a working directory, without `..` steps. -/
def absolute (home : Path) (s : String) : Path :=
  let p := home.join (parse s)
  { p with steps := resolveSteps p.steps }

end Path
end ConfigLayers
