import ConfigLayers.Error
import ConfigLayers.Json.Printer
import ConfigLayers.Json.Reader
import ConfigLayers.Text.Case
import ConfigLayers.World.Basic

/-! Where secrets are kept: files, the environment, and tables. -/
namespace ConfigLayers

/-- A file of secrets. Its entries are none until they have been read; changes wait to be written. -/
structure CredentialFile where
  path : Path
  entries : Option (Table String)
  isDirty : Bool
  deriving DecidableEq

namespace CredentialFile

def ofPath (path : Path) : CredentialFile :=
  ⟨path, none, false⟩

/-- The entries of a text, which must hold one record; values that are no texts are shown as texts. -/
def entriesOf (path : Path) (room : Nat) (text : List Char) : Except Error (Table String) :=
  match Json.read room text with
  | .ok (.record fields) => .ok (Table.ofList (fields.map fun (key, v) => (key, v.plain)))
  | .ok _ => .error (.credentialsNotRecord path.text)
  | .error .malformed => .error (.unreadableCredentials path.text none)
  | .error .tooManyDigits => .error .tooManyDigits
  | .error .tooDeep => .error .valueTooDeep

/-- The entries in a file. Where there is no file there are none. -/
def entriesIn (path : Path) (w : World) : Except Error (Table String) :=
  match w.files.isPresent path with
  | .error fault => .error (.file fault)
  | .ok false => .ok ∅
  | .ok true => match w.files.read path with
    | .ok content => match Utf8.decode? content with
      | some text => entriesOf path w.room text
      | none => .error .undecodableText
    | .error (.file fault) => .error (.unreadableCredentials path.text (some fault))
    | .error .nul => .error .nulInPath

/-- Reads the entries unless they are known. -/
def load (f : CredentialFile) (w : World) : CredentialFile × Except Error (Table String) :=
  match f.entries with
  | some entries => (f, .ok entries)
  | none => match entriesIn f.path w with
    | .ok entries => ({ f with entries := some entries }, .ok entries)
    | .error e => (f, .error e)

def create (f : CredentialFile) (w : World) (name secret : String) : CredentialFile × Except Error Unit :=
  match f.load w with
  | (f, .error e) => (f, .error e)
  | (f, .ok entries) =>
    if entries.contains name then (f, .error (.credentialExists name f.path.text))
    else ({ f with entries := some (entries.insert name secret), isDirty := true }, .ok ())

def delete (f : CredentialFile) (w : World) (name : String) : CredentialFile × Except Error Unit :=
  match f.load w with
  | (f, .error e) => (f, .error e)
  | (f, .ok entries) =>
    if entries.contains name then ({ f with entries := some (entries.erase name), isDirty := true }, .ok ())
    else (f, .error (.credentialMissing name f.path.text))

def written (entries : Table String) : Bytes :=
  Utf8.encode (Json.textLines entries.entries).toList

/-- Writes the entries to the file if they have changed. -/
def flush (f : CredentialFile) (files : FileTree) : CredentialFile × FileTree × Except Error Unit :=
  match f.isDirty, f.entries with
  | true, some entries => match files.replacePrivately f.path (written entries) with
    | .ok files => ({ f with isDirty := false }, files, .ok ())
    | .error (.file fault) => (f, files, .error (.file fault))
    | .error .nul => (f, files, .error .nulInPath)
  | _, _ => (f, files, .ok ())

end CredentialFile

/-- Something that answers for secrets. -/
inductive CredentialProvider where
  | file (file : CredentialFile)
  /-- Secrets in variables whose names start alike. -/
  | environment (start : String)
  | fixed (secrets : Table String)
  deriving DecidableEq

namespace CredentialProvider

def typeName : CredentialProvider → String
  | file _ => "JsonFileCredentialProvider"
  | environment _ => "EnvironmentCredentialProvider"
  | fixed _ => "StaticProvider"

/-- The variable that holds a secret: in capitals, with underscores for dots and hyphens. -/
def variableName (start name : String) : String :=
  start ++ String.ofList ((Text.upper name).toList.map fun c => if c == '.' || c == '-' then '_' else c)

def get (p : CredentialProvider) (w : World) (name : String) :
    CredentialProvider × Except Error (Option String) :=
  match p with
  | file f =>
    let (f, entries) := f.load w
    (file f, entries.map (·.get? name))
  | environment start => (p, .ok (w.environment.get? (variableName start name)))
  | fixed secrets => (p, .ok (secrets.get? name))

/-- The names of the secrets, as far as the provider tells. -/
def names (p : CredentialProvider) (w : World) : CredentialProvider × Except Error (List String) :=
  match p with
  | file f =>
    let (f, entries) := f.load w
    (file f, entries.map Table.keys)
  | _ => (p, .ok [])

def create (p : CredentialProvider) (w : World) (name secret : String) :
    CredentialProvider × Except Error Unit :=
  match p with
  | file f =>
    let (f, result) := f.create w name secret
    (file f, result)
  | _ => (p, .error (.readOnlyProvider p.typeName name))

def delete (p : CredentialProvider) (w : World) (name : String) : CredentialProvider × Except Error Unit :=
  match p with
  | file f =>
    let (f, result) := f.delete w name
    (file f, result)
  | _ => (p, .error (.readOnlyProvider p.typeName name))

def flush (p : CredentialProvider) (w : World) : CredentialProvider × World × Except Error Unit :=
  match p with
  | file f =>
    let (f, files, result) := f.flush w.files
    (file f, { w with files }, result)
  | _ => (p, w, .ok ())

def text : CredentialProvider → String
  | file f => "localjson://file" ++ f.path.text
  | environment start => "env://" ++ start
  | fixed _ => "static://"

end CredentialProvider
end ConfigLayers
