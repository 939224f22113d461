import ConfigLayers.Credential.Scheme
import ConfigLayers.Store.Typed

/-! Secrets: asked of the providers that a store names, before the store itself. -/
namespace ConfigLayers
namespace Store

def providersName : String := "security.credential.provider.path"

def fallbackName : String := "security.credential.clear-text-fallback"

/-- The first answer of a provider to one of some names. -/
def answerOf (w : World) (p : CredentialProvider) : List String → Except Error (Option String)
  | [] => .ok none
  | name :: names =>
    match p.get w name with
    | (_, .error e) => .error e
    | (_, .ok (some secret)) => .ok (some secret)
    | (p, .ok none) => answerOf w p names

/-- The first answer of the providers to one of some names. -/
def answerAmong (w : World) (names : List String) : List CredentialProvider → Except Error (Option String)
  | [] => .ok none
  | p :: ps => do
    match ← answerOf w p names with
    | some secret => return some secret
    | none => answerAmong w names ps

/-- The first value that one of some names has in the store. -/
def valueOfAny (s : Store) (c : Context) : List String → Outcome (Option String)
  | [] => return none
  | name :: names => do
    match ← s.get c name none with
    | some value => return some value
    | none => valueOfAny s c names

/-- The secret of a name or of one of its aliases. -/
def getPassword (s : Store) (c : Context) (schemes : CredentialSchemes) (name : String) :
    Outcome (Option String) := do
  let names := name :: c.deprecations.aliases name
  let uris ← s.getTrimmedItems c providersName []
  let providers ← (uris.mapM schemes.provider : Except Error (List CredentialProvider))
  match ← answerAmong c.world names providers with
  | some secret => return some secret
  | none =>
    if (← s.getBoolean c fallbackName (some true)) == some true then s.valueOfAny c names
    else return none

end Store
end ConfigLayers
