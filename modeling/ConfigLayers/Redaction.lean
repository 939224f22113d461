import ConfigLayers.Notice
import ConfigLayers.Pattern.Matcher
import ConfigLayers.Value

/-! Masking of the values of sensitive names. -/
namespace ConfigLayers

/-- Names are sensitive in which one of the patterns is found. -/
structure Redactor where
  patterns : List Pattern
  deriving DecidableEq

namespace Redactor

def standardExpressions : String := "secret$,password$,ssl.keystore.pass$"

def mask : String := "<redacted>"

def compileAll : List String → Outcome (List Pattern)
  | [] => pure []
  | expression :: rest =>
    match Pattern.compile? expression with
    | some p => do
      let ps ← compileAll rest
      return p :: ps
    | none => do
      Outcome.notify .warning .redaction ("Ignoring invalid sensitive key pattern " ++ Text.quoted expression)
      compileAll rest

def ofExpressions (expressions : Option String) : Outcome Redactor := do
  let patterns ← compileAll (Value.trimmedItems (expressions.getD standardExpressions))
  return ⟨patterns⟩

def isSensitive (r : Redactor) (name : String) : Bool :=
  r.patterns.any (·.isFoundIn name)

def redact (r : Redactor) (name : String) (value : Option String) : Option String :=
  if r.isSensitive name then value.map fun _ => mask else value

end Redactor
end ConfigLayers
