import ConfigLayers.Error
import ConfigLayers.Table
import ConfigLayers.Text.Utf8
import ConfigLayers.World.Path

/-! The files below a working directory. Above it there are only the directories on the way to it; from one
of them the working directory is not listed, so it is reached as the start of a relative path or by its
whole name. -/
namespace ConfigLayers

/-- A directory or a file with its access rights, of which those of the owner count. -/
inductive FileNode where
  | directory (mode : Nat)
  | file (content : Bytes) (mode : Nat)
  deriving DecidableEq

def isReadable (mode : Nat) : Bool := mode.testBit 8

def isWritable (mode : Nat) : Bool := mode.testBit 7

def isSearchable (mode : Nat) : Bool := mode.testBit 6

/-- Files and directories by the steps that lead to them from the working directory. -/
structure FileTree where
  home : Path
  nodes : List (List String × FileNode)
  deriving DecidableEq

namespace FileTree

/-- The access rights of a new file. -/
def standardMode : Nat := 0o644

def privateMode : Nat := 0o600

def folderMode : Nat := 0o755

/-- How many bytes a name, and the text of a path, may have. -/
def maxName : Nat := 255

def maxPath : Nat := 4095

/-- Why a file cannot be used. -/
inductive Fault where
  | nul
  | file (fault : FileFault)
  deriving DecidableEq, Repr

/-- Where a walk has come to: a directory so many steps down on the way to the working directory, or a file
or directory inside it. -/
inductive Place where
  | above (depth : Nat)
  | inside (steps : List String)
  deriving DecidableEq

def node? (t : FileTree) (steps : List String) : Option FileNode :=
  match steps with
  | [] => some (.directory folderMode)
  | _ => t.nodes.lookup steps

def nodeAt (t : FileTree) : Place → Option FileNode
  | .above _ => some (.directory folderMode)
  | .inside steps => t.node? steps

def back (t : FileTree) : Place → Place
  | .above depth => .above (depth - 1)
  | .inside [] => .above (t.home.steps.length - 1)
  | .inside steps => .inside steps.dropLast

/-- Looks a name up in a directory. -/
def enter (t : FileTree) (place : Place) (name : String) : Except FileFault Place :=
  if maxName < Utf8.size name then .error .nameTooLong
  else match place with
    | .above depth =>
      if depth + 1 < t.home.steps.length && t.home.steps[depth]? == some name then .ok (.above (depth + 1))
      else .error .missing
    | .inside steps =>
      if (t.node? (steps ++ [name])).isSome then .ok (.inside (steps ++ [name])) else .error .missing

/-- One step from a place, which must be a directory that may be searched. -/
def step (t : FileTree) (place : Place) (name : String) : Except FileFault Place :=
  match t.nodeAt place with
  | none => .error .missing
  | some (.file ..) => .error .notDirectory
  | some (.directory mode) =>
    if !isSearchable mode then .error .denied
    else if name == ".." then .ok (t.back place)
    else t.enter place name

def walk (t : FileTree) (place : Place) : List String → Except FileFault Place
  | [] => .ok place
  | name :: rest => match t.step place name with
    | .ok next => t.walk next rest
    | .error fault => .error fault

/-- Where a path starts, and its steps from there. -/
def start (t : FileTree) (p : Path) : Place × List String :=
  if p.isAbsolute then
    if t.home.steps.isPrefixOf p.steps then (.inside [], p.steps.drop t.home.steps.length)
    else (.above 0, p.steps)
  else (.inside [], p.steps)

def holdsNul (p : Path) : Bool :=
  p.steps.any fun step => step.toList.contains (Char.ofNat 0)

/-- Why a path is not followed at all. -/
def refusal? (p : Path) : Option Fault :=
  if holdsNul p then some .nul
  else if maxPath < Utf8.size p.text then some (.file .nameTooLong)
  else none

def locate (t : FileTree) (p : Path) : Except Fault Place :=
  match refusal? p with
  | some fault => .error fault
  | none =>
    let (place, steps) := t.start p
    (t.walk place steps).mapError .file

/-- What is at a path. A path that leads nowhere is no fault, nor is one that no file can have. -/
def find? (t : FileTree) (p : Path) : Except FileFault (Option FileNode) :=
  match t.locate p with
  | .ok place => .ok (t.nodeAt place)
  | .error .nul => .ok none
  | .error (.file fault) => if fault = .missing ∨ fault = .notDirectory then .ok none else .error fault

def isFile (t : FileTree) (p : Path) : Except FileFault Bool :=
  (t.find? p).map fun node => match node with
    | some (.file ..) => true
    | _ => false

def isPresent (t : FileTree) (p : Path) : Except FileFault Bool :=
  (t.find? p).map Option.isSome

def read (t : FileTree) (p : Path) : Except Fault Bytes := do
  let place ← t.locate p
  match t.nodeAt place with
  | some (.file content mode) => if isReadable mode then return content else throw (.file .denied)
  | some (.directory mode) => throw (.file (if isReadable mode then .isDirectory else .denied))
  | none => throw (.file .missing)

/-- Puts a node at steps below the working directory. -/
def put (t : FileTree) (steps : List String) (node : FileNode) : FileTree :=
  { t with nodes := if (t.nodes.lookup steps).isSome then t.nodes.map fun e => if e.1 == steps then (steps, node) else e
    else t.nodes ++ [(steps, node)] }

/-- Puts a node with the directories that lead to it. -/
def install (t : FileTree) (steps : List String) (node : FileNode) : FileTree :=
  let parents := (List.range steps.length).drop 1
  let t := parents.foldl (fun t n =>
    if (t.node? (steps.take n)).isSome then t else t.put (steps.take n) (.directory folderMode)) t
  match node, t.node? steps with
  | .directory _, some _ => t
  | .file content _, some (.file _ mode) => t.put steps (.file content mode)
  | node, _ => t.put steps node

/-- Writes a file, whose directory must be there. A file that is there keeps its rights. -/
def write (t : FileTree) (p : Path) (content : Bytes) : Except Fault FileTree := do
  match p.steps.getLast? with
  | none => throw (.file .isDirectory)
  | some ".." =>
    let _ ← t.locate p
    throw (.file .isDirectory)
  | some name =>
    let folder ← t.locate p.parent
    match t.nodeAt folder with
    | some (.directory folderMode) =>
      match t.locate p with
      | .ok (.inside steps) =>
        match t.node? steps with
        | some (.file _ mode) =>
          if isWritable mode then return t.put steps (.file content mode) else throw (.file .denied)
        | _ => throw (.file .isDirectory)
      | .ok (.above _) => throw (.file .isDirectory)
      | .error (.file .missing) =>
        match folder with
        | .inside steps =>
          if isWritable folderMode then return t.put (steps ++ [name]) (.file content standardMode)
          else throw (.file .denied)
        | .above _ => throw (.file .missing)
      | .error fault => throw fault
    | some (.file ..) => throw (.file .notDirectory)
    | none => throw (.file .missing)

def isOpen (t : FileTree) (steps : List String) : Bool :=
  match t.node? steps with
  | some (.directory mode) => isWritable mode
  | _ => false

def remove (t : FileTree) (p : Path) : Except Fault FileTree := do
  match ← t.locate p with
  | .inside steps =>
    match t.node? steps with
    | some (.file ..) =>
      if t.isOpen steps.dropLast then return { t with nodes := t.nodes.filter fun e => e.1 != steps }
      else throw (.file .denied)
    | _ => throw (.file .isDirectory)
  | .above _ => throw (.file .isDirectory)

/-- Makes the directories of a path that are not there. -/
def makeDirectories (t : FileTree) (place : Place) : List String → Except Fault FileTree
  | [] => match t.nodeAt place with
    | some (.file ..) => .error (.file .exists)
    | _ => .ok t
  | name :: rest =>
    match t.step place name with
    | .ok next => makeDirectories t next rest
    | .error .missing =>
      match place with
      | .inside steps =>
        if t.isOpen steps then
          makeDirectories (t.put (steps ++ [name]) (.directory folderMode)) (.inside (steps ++ [name])) rest
        else .error (.file .denied)
      | .above _ => .error (.file .missing)
    | .error fault => .error (.file fault)

def makePath (t : FileTree) (p : Path) : Except Fault FileTree :=
  match refusal? p with
  | some fault => .error fault
  | none =>
    let (place, steps) := t.start p
    t.makeDirectories place steps

/-- Writes a file anew with the rights of private files, in a directory that is made if it is missing. -/
def replacePrivately (t : FileTree) (p : Path) (content : Bytes) : Except Fault FileTree := do
  let t ← t.makePath p.parent
  let draft := p.extend ".tmp"
  let t ← t.write draft content
  let place ← t.locate draft
  let t ← t.remove draft
  let t ← match t.locate p with
    | .ok _ => t.remove p
    | .error _ => pure t
  match place with
  | .inside steps =>
    return t.put (steps.dropLast ++ [p.steps.getLast?.getD ""]) (.file content privateMode)
  | .above _ => throw (.file .missing)

def files (t : FileTree) : List String :=
  t.nodes.filterMap fun (steps, node) => match node with
    | .file .. => some (Text.join "/" steps)
    | .directory _ => none

end FileTree
end ConfigLayers
