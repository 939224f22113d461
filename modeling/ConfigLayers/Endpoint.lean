import ConfigLayers.Url

/-! A host with a port. -/
namespace ConfigLayers

structure Endpoint where
  host : String
  port : Int
  deriving DecidableEq

namespace Endpoint

/-- The host and the port around a colon; a host with a colon in it stands in brackets. -/
def text (e : Endpoint) : String :=
  (if e.host.toList.contains ':' then "[" ++ e.host ++ "]" else e.host) ++ ":" ++ Integer.text e.port

def holdsScheme : List Char → Bool
  | ':' :: '/' :: '/' :: _ => true
  | _ :: cs => holdsScheme cs
  | [] => false

/-- Reads the authority of a locator, or a text that is only an authority. There must be a host, a port
or a default for it, and no path but the root. -/
def parse (s : String) (defaultPort : Option Int) (key : Option String) : Except Error Endpoint :=
  let target := Text.trim s
  let refused := Except.error (.notAuthority key target)
  if target == "" then refused
  else
    let parsed : Except Error (Option String × Option Nat × List Char) := do
      let url ← Url.split (if holdsScheme target.toList then target else "//" ++ target) ""
      let port ← url.port?
      return (url.host?, port, url.path)
    match parsed with
    | .ok (some host, port, path) =>
      match port.map Int.ofNat <|> defaultPort with
      | some port => if 0 ≤ port && (path == [] || path == ['/']) then .ok ⟨host, port⟩ else refused
      | none => refused
    | _ => refused

end Endpoint
end ConfigLayers
