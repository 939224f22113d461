import ConfigLayers.World.FileTree

/-! What surrounds a store: files, the environment, documents on the web, and room for calls. -/
namespace ConfigLayers

structure WebAnswer where
  status : Int
  reason : String
  body : Bytes
  deriving DecidableEq

structure World where
  files : FileTree
  environment : Table String
  web : Table WebAnswer
  /-- How many calls may be made inside one another where documents are walked and values are read. -/
  room : Nat
  deriving DecidableEq

namespace World

/-- The document at a locator, or why there is none. -/
def get (w : World) (url : String) : Except String Bytes :=
  match w.web.get? url with
  | none => .error "unreachable"
  | some answer =>
    let refusal (whose : String) :=
      Integer.text answer.status ++ " " ++ whose ++ " Error: " ++ answer.reason ++ " for url: " ++ url
    if 400 ≤ answer.status && answer.status < 500 then .error (refusal "Client")
    else if 500 ≤ answer.status && answer.status < 600 then .error (refusal "Server")
    else .ok answer.body

end World
end ConfigLayers
