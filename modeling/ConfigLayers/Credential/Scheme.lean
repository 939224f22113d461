import ConfigLayers.Credential.Provider
import ConfigLayers.Url

/-! Makes the providers of secrets that locators name by their schemes. -/
namespace ConfigLayers

/-- What a scheme of locators stands for. -/
inductive CredentialScheme where
  | file
  | environment
  | fixed (secrets : Table String)
  deriving DecidableEq

namespace CredentialScheme

def afterMark : List Char → List Char
  | [] => []
  | ':' :: '/' :: '/' :: rest => rest
  | _ :: rest => afterMark rest

def provider (scheme : CredentialScheme) (uri : String) : Except Error CredentialProvider :=
  match scheme with
  | file => do
    let url ← Url.split uri ""
    if url.authority == [] || url.authority == "file".toList then
      return .file (.ofPath (Path.parse (Url.percentDecode url.path)))
    else throw (.unsupportedLocation uri)
  | environment => return .environment (String.ofList (afterMark uri.toList))
  | fixed secrets => return .fixed secrets

end CredentialScheme

/-- Schemes by name, in lower case. -/
structure CredentialSchemes where
  schemes : Table CredentialScheme
  deriving DecidableEq

namespace CredentialSchemes

def standard : CredentialSchemes :=
  ⟨Table.ofList [("localjson", .file), ("env", .environment)]⟩

def register (s : CredentialSchemes) (name : String) (scheme : CredentialScheme) : CredentialSchemes :=
  ⟨s.schemes.insert (Text.lower name) scheme⟩

def provider (s : CredentialSchemes) (uri : String) : Except Error CredentialProvider := do
  match s.schemes.get? (Text.lower (← Url.split uri "").scheme) with
  | some scheme => scheme.provider uri
  | none => throw (.unknownProvider uri)

end CredentialSchemes
end ConfigLayers
