import ConfigLayers.Error
import ConfigLayers.Traced

/-! What operations report beside their result: notices for the log, and which names were looked up in the
registry of deprecations. -/
namespace ConfigLayers

inductive Level where
  | info
  | warning
  deriving DecidableEq, Repr

/-- The part of the library that a notice comes from. -/
inductive Topic where
  | store
  | loader
  | registry
  | redaction
  | resourceTypes
  deriving DecidableEq, Repr

structure Notice where
  level : Level
  topic : Topic
  text : String
  deriving DecidableEq, Repr

inductive Event where
  | resolved (name : String)
  | noticed (notice : Notice)
  deriving DecidableEq, Repr

abbrev Outcome := Traced Event Error

namespace Outcome

def notify (level : Level) (topic : Topic) (text : String) : Outcome Unit :=
  Traced.note (.noticed ⟨level, topic, text⟩)

end Outcome
end ConfigLayers
