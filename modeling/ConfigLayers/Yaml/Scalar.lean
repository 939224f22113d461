import ConfigLayers.Pattern.Matcher
import ConfigLayers.Text.Digit

/-! Texts as YAML scalars in one of three styles: plain where nothing else could be read, else between single
quotes, else between double quotes with escapes. Long texts go over several lines. -/
namespace ConfigLayers
namespace Yaml

def width : Nat := 80

def spaces (n : Nat) : List Char :=
  List.replicate n ' '

/-- Words that are no texts when they stand plain. -/
def reservedWords : List String := [
    "", "~", "null", "Null", "NULL", "<<", "=",
    "yes", "Yes", "YES", "no", "No", "NO", "true", "True", "TRUE", "false", "False", "FALSE",
    "on", "On", "ON", "off", "Off", "OFF"]

/-- Forms of numbers and of points in time. -/
def reservedForms : List String := [
    "^(?:[-+]?0b[0-1_]+|[-+]?0[0-7_]+|[-+]?(?:0|[1-9][0-9_]*)|[-+]?0x[0-9a-fA-F_]+"
      ++ "|[-+]?[1-9][0-9_]*(?::[0-5]?[0-9])+)$",
    "^(?:[-+]?[0-9][0-9_]*\\.[0-9_]*(?:[eE][-+][0-9]+)?|\\.[0-9][0-9_]*(?:[eE][-+][0-9]+)?"
      ++ "|[-+]?[0-9][0-9_]*(?::[0-5]?[0-9])+\\.[0-9_]*|[-+]?\\.(?:inf|Inf|INF)|\\.(?:nan|NaN|NAN))$",
    "^(?:[0-9][0-9][0-9][0-9]-[0-9][0-9]-[0-9][0-9]|[0-9][0-9][0-9][0-9]-[0-9][0-9]?-[0-9][0-9]?(?:[Tt]|[ \\t]+)"
      ++ "[0-9][0-9]?:[0-9][0-9]:[0-9][0-9](?:\\.[0-9]*)?(?:[ \\t]*(?:Z|[-+][0-9][0-9]?(?::[0-9][0-9])?))?)$"]

def isReserved (s : String) : Bool :=
  reservedWords.contains s || reservedForms.any fun form => match Pattern.compile? form with
    | some p => p.isFoundIn s
    | none => false

def indicators : List Char :=
  "#,[]\x7b\x7d&*!|>'\"%@".toList ++ ['\x60']

def endsWord (rest : List Char) : Bool :=
  match rest with
  | [] => true
  | c :: _ => c == ' '

/-- Whether a colon ends a word or a number sign starts one. -/
def holdsIndicator : Bool → List Char → Bool
  | _, [] => false
  | afterBlank, c :: rest =>
    (c == ':' && endsWord rest) || (c == '#' && afterBlank) || holdsIndicator (c == ' ') rest

def startsPlain : List Char → Bool
  | [] => false
  | c :: rest =>
    !indicators.contains c && c != ' ' && !((c == '?' || c == '-') && endsWord rest)
      && !("---".toList.isPrefixOf (c :: rest)) && !("...".toList.isPrefixOf (c :: rest))

def isPrintable (c : Char) : Bool :=
  0x20 ≤ c.toNat && c.toNat < 0x7f

/-- Whether a blank stands beside a line break. -/
def blankAtBreak : List Char → Bool
  | a :: b :: rest => (a == ' ' && b == '\n') || (a == '\n' && b == ' ') || blankAtBreak (b :: rest)
  | _ => false

def allowsSingle (cs : List Char) : Bool :=
  cs.all (fun c => isPrintable c || c == '\n') && !blankAtBreak cs

def allowsPlain (s : String) : Bool :=
  let cs := s.toList
  cs.all isPrintable && startsPlain cs && cs.getLast? != some ' ' && !holdsIndicator true cs && !isReserved s

/-- A text over lines: a single blank after a long line becomes a line break, a line break an empty line.
The arguments after the indentation are the column and the character before the text. -/
def flow (isQuoted : Bool) (indent : Nat) : Nat → Char → List Char → List Char
  | _, _, [] => []
  | column, before, c :: rest =>
    if c == ' ' then
      let next := rest.head?
      if before != ' ' && next.isSome && next != some ' ' && width < column then
        '\n' :: spaces indent ++ flow isQuoted indent indent c rest
      else c :: flow isQuoted indent (column + 1) c rest
    else if c == '\n' then
      (if before == '\n' then ['\n'] else ['\n', '\n'])
        ++ (if rest.head? == some '\n' then [] else spaces indent) ++ flow isQuoted indent indent c rest
    else if isQuoted && c == '\'' then '\'' :: '\'' :: flow isQuoted indent (column + 2) c rest
    else c :: flow isQuoted indent (column + 1) c rest

def shortEscapes : List (Nat × Char) :=
  [(0x00, '0'), (0x07, 'a'), (0x08, 'b'), (0x09, 't'), (0x0a, 'n'), (0x0b, 'v'), (0x0c, 'f'), (0x0d, 'r'),
    (0x1b, 'e'), (0x22, '"'), (0x5c, '\\'), (0x85, 'N'), (0xa0, '_'), (0x2028, 'L'), (0x2029, 'P')]

def escaped (c : Char) : List Char :=
  let n := c.toNat
  let digits (width : Nat) := (Text.hexFixed n width).map Char.toUpper
  match shortEscapes.lookup n with
  | some e => ['\\', e]
  | none =>
    if n ≤ 0xff then '\\' :: 'x' :: digits 2
    else if n ≤ 0xffff then '\\' :: 'u' :: digits 4
    else '\\' :: 'U' :: digits 8

/-- A line break inside double quotes; a blank behind it has to be marked. -/
def brokenLine (indent : Nat) (next : Option Char) : List Char × Nat :=
  let mark := if next == some ' ' then ['\\'] else []
  ('\\' :: '\n' :: spaces indent ++ mark, indent + mark.length)

/-- A text between double quotes, `length` long, from an index on. `pending` is what has been passed but not
written before the column. -/
def escapedFlow (indent length : Nat) : Nat → List Char → Nat → List Char → List Char
  | _, pending, _, [] => pending
  | index, pending, column, c :: rest =>
    let isInside := 0 < index && index + 1 < length
    if isPrintable c && c != '"' && c != '\\' then
      if isInside && (c == ' ' || pending.isEmpty) && width < column + pending.length then
        let (broken, column) := brokenLine indent (some c)
        pending ++ broken ++ escapedFlow indent length (index + 1) [c] column rest
      else escapedFlow indent length (index + 1) (pending ++ [c]) column rest
    else
      let written := pending ++ escaped c
      let column := column + written.length
      if isInside && width + 1 < column then
        let (broken, column) := brokenLine indent rest.head?
        written ++ broken ++ escapedFlow indent length (index + 1) [] column rest
      else written ++ escapedFlow indent length (index + 1) [] column rest

def scalar (indent column : Nat) (s : String) : List Char :=
  let cs := s.toList
  if allowsPlain s then flow false indent column ' ' cs
  else if allowsSingle cs then '\'' :: flow true indent (column + 1) ' ' cs ++ ['\'']
  else '"' :: escapedFlow indent cs.length 0 [] (column + 1) cs ++ ['"']

end Yaml
end ConfigLayers
