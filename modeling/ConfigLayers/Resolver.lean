import ConfigLayers.KnownType
import ConfigLayers.World.FileTree

/-! How a store finds types and named documents. -/
namespace ConfigLayers

inductive Resolver where
  /-- Looks documents up in directories, and types among the known ones. -/
  | search (directories : List Path)
  /-- Finds no documents, and the listed types alone. -/
  | fixed (types : Table KnownType)
  deriving DecidableEq

namespace Resolver

/-- The type of a name without a dot, or of a module and a name around the last dot. -/
def knownType (name : String) : Except Error KnownType :=
  let found (home last : String) : Except Error KnownType :=
    match KnownType.find? home last with
    | some t => .ok t
    | none => .error (.typeNotFound name)
  match KnownType.splitLastDot name.toList with
  | none => if name == "" then .error .emptyTypeName else found "builtins" name
  | some ([], _) => .error .emptyModuleName
  | some ('.' :: _, _) => .error .relativeModuleName
  | some (home, last) => found (String.ofList home) (String.ofList last)

def resolveType (r : Resolver) (name : String) : Except Error KnownType :=
  match r with
  | search _ => knownType (Text.trim name)
  | fixed types =>
    match types.get? name with
    | some t => .ok t
    | none => .error (.typeNotListed name)

/-- The first path that leads to a file. -/
def firstFile (files : FileTree) : List Path → Except Error (Option Path)
  | [] => .ok none
  | p :: rest => match files.isFile p with
    | .ok true => .ok (some p)
    | .ok false => firstFile files rest
    | .error fault => .error (.file fault)

def findResource (r : Resolver) (files : FileTree) (name : String) : Except Error (Option Path) :=
  match r with
  | search directories => firstFile files (directories.map (·.join (Path.parse name)))
  | fixed _ => .ok none

end Resolver
end ConfigLayers
