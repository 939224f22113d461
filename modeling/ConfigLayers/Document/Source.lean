import ConfigLayers.Resource
import ConfigLayers.Xml.Parser

/-! The tree of a document that has been fetched, with the files that its entities refer to. -/
namespace ConfigLayers
namespace Fetched

/-- The path of an entity as seen from the base of its document; none if it is not in a file. -/
def entityPath? (base : Option String) (locator : String) : Option Path :=
  let scheme := (Url.splitScheme locator.toList).map Prod.fst
  match scheme with
  | some "file" => (Resource.uriPath locator).toOption
  | some _ => none
  | none =>
    let target := Path.parse locator
    match base with
    | none => some target
    | some base =>
      if Url.isLocator base then none
      else
        let p := (Path.parse base).parent.join target
        some { p with steps := Path.resolveSteps p.steps }

def readEntity (files : FileTree) (base : Option String) (locator : String) : Xml.Entity :=
  match (entityPath? base locator).map files.read with
  | some (.ok content) => Xml.Entity.ofBytes content
  | _ => .file (some [])

def reach (files : FileTree) : Nat :=
  files.nodes.foldl (fun total (_, node) => match node with
    | .file content _ => total + content.length
    | .directory _ => total) 0

def tree? (f : Fetched) (files : FileTree) : Option Xml.Node :=
  Xml.ofBytes? (readEntity files f.base) (reach files) f.encoding.isSome f.content

end Fetched
end ConfigLayers
