import ConfigLayers.Resolver
import ConfigLayers.Url
import ConfigLayers.World.Basic

/-! Documents that a store can load: files, locators, names to be searched for, and streams. -/
namespace ConfigLayers

/-- What is left in a stream. A stream is closed once it has been read. -/
inductive Stream where
  | bytes (content : Bytes)
  | text (content : String)
  | closed
  deriving DecidableEq

inductive Resource where
  | file (path : Path)
  | uri (uri scheme : String)
  | named (name : String) (isDefault : Bool)
  | stream (stream : Stream) (name : String)
  deriving DecidableEq

/-- The bytes of a document, the base of references in it, and the encoding that is known beforehand. -/
structure Fetched where
  content : Bytes
  base : Option String
  encoding : Option String
  deriving DecidableEq

namespace Resource

def streamName : String := "input stream"

def ofPath (home : Path) (path : String) : Resource :=
  .file (Path.absolute home path)

def ofUri (uri : String) : Except Error Resource := do
  let uri := Text.trim uri
  return .uri uri (← Url.split uri "").scheme

def ofName (name : String) (isDefault : Bool) : Resource :=
  .named (Text.trim name) isDefault

def ofStream (stream : Stream) (name : Option String) : Resource :=
  .stream stream (match name with
    | some "" | none => streamName
    | some name => name)

/-- A text is a locator if it starts like one, else a name. -/
def ofText (s : String) : Except Error Resource :=
  if Url.isLocator (Text.trim s) then ofUri s else .ok (ofName s false)

def locator : Resource → Option String
  | file p => some p.text
  | uri u _ => some u
  | named name _ => some name
  | stream .. => none

def sourceName : Resource → String
  | stream _ name => name
  | r => match r.locator with
    | some "" | none => streamName
    | some locator => locator

def isReloadable (r : Resource) : Bool :=
  r.locator.isSome

def isDefault : Resource → Bool
  | named _ isDefault => isDefault
  | _ => false

def typeName : Resource → String
  | file _ => "FileResource"
  | uri .. => "UriResource"
  | named .. => "NamedResource"
  | stream .. => "StreamResource"

def shown (r : Resource) : String :=
  r.typeName ++ "(" ++ Text.quoted r.sourceName ++ ")"

/-- Two descriptions of one document: of the same kind with the same locator. No stream is the same as
another. -/
def same (r s : Resource) : Bool :=
  match r, s with
  | file p, file q => p.text == q.text
  | uri u _, uri v _ => u == v
  | named n _, named m _ => n == m
  | _, _ => false

def readFile (files : FileTree) (p : Path) : Except Error Bytes :=
  match files.read p with
  | .ok content => .ok content
  | .error .nul => .error .nulInPath
  | .error (.file fault) => .error (.unreadableFile p.text fault)

def uriPath (uri : String) : Except Error Path := do
  return Path.parse (Url.percentDecode (← Url.split uri "").path)

def fetch (r : Resource) (resolver : Resolver) (w : World) : Except Error Fetched :=
  match r with
  | file p => do return ⟨← readFile w.files p, some p.text, none⟩
  | uri u scheme =>
    if scheme == "file" then do
      let p ← uriPath u
      return ⟨← readFile w.files p, some p.text, none⟩
    else if scheme == "http" || scheme == "https" then
      match w.get u with
      | .ok content => .ok ⟨content, some u, none⟩
      | .error reason => .error (.unfetched u reason)
    else .error (.unsupportedScheme scheme u)
  | named name _ =>
    match resolver.findResource w.files name with
    | .error e => .error e
    | .ok none => .error (.resourceNotFound name)
    | .ok (some p) => do return ⟨← readFile w.files p, some p.text, none⟩
  | stream (.bytes content) _ => .ok ⟨content, none, none⟩
  | stream (.text content) _ => .ok ⟨Utf8.encode content.toList, none, some "utf-8"⟩
  | stream .closed name => .error (.unreadableStream name "I/O operation on closed file.")

end Resource
end ConfigLayers
