import ConfigLayers.Error
import ConfigLayers.Text.Case

/-! Units of time, and durations written as a number with the suffix of a unit. -/
namespace ConfigLayers

inductive TimeUnit where
  | nanoseconds
  | microseconds
  | milliseconds
  | seconds
  | minutes
  | hours
  | days
  deriving DecidableEq, Repr

namespace TimeUnit

def all : List TimeUnit :=
  [nanoseconds, microseconds, milliseconds, seconds, minutes, hours, days]

def suffix : TimeUnit → String
  | nanoseconds => "ns"
  | microseconds => "us"
  | milliseconds => "ms"
  | seconds => "s"
  | minutes => "m"
  | hours => "h"
  | days => "d"

/-- The length of one unit. -/
def nanos : TimeUnit → Nat
  | nanoseconds => 1
  | microseconds => 1000
  | milliseconds => 1000000
  | seconds => 1000000000
  | minutes => 60000000000
  | hours => 3600000000000
  | days => 86400000000000

theorem nanos_pos (u : TimeUnit) : 0 < u.nanos := by
  cases u <;> decide

/-- The amount in units of `target`, cut off toward zero. -/
def convert (target : TimeUnit) (amount : Int) (source : TimeUnit) : Int :=
  (amount * source.nanos).tdiv target.nanos

end TimeUnit

namespace Duration

open Text

/-- Splits a trimmed text at the first suffix that its lower-case form ends in, else at its end; a text
without a suffix is an amount of the unit asked for. -/
def split (asked : TimeUnit) (cs : List Char) : List Char × TimeUnit :=
  match TimeUnit.all.find? fun u => u.suffix.toList.isSuffixOf (lowerAfter [] cs) with
  | some u => (cs.take (cs.length - u.suffix.length), u)
  | none => (cs, asked)

/-- Reads a duration as an amount of the unit asked for. -/
def parse (s : String) (asked : TimeUnit) (key : Option String) : Except Error Int :=
  let (number, source) := split asked (trimChars s.toList)
  match Integer.read (trimChars number) with
  | .error .tooManyDigits => .error .tooManyDigits
  | .error .malformed => .error (.invalidValue key s "time duration")
  | .ok n =>
    if Integer.minLong ≤ n ∧ n ≤ Integer.maxLong then .ok (asked.convert n source)
    else .error (.invalidValue key s "time duration")

def format (amount : Int) (unit : TimeUnit) : String :=
  Integer.text amount ++ unit.suffix

end Duration
end ConfigLayers
