import ConfigLayers.Text.Digit
import ConfigLayers.Xml.Basic

/-! Pieces of markup read from the start of a text. What does not fit is refused without a reason. -/
namespace ConfigLayers
namespace Xml

/-- The characters to come, and the length of all entities replaced so far. -/
structure Cursor where
  rest : List Char
  spent : Nat

/-- A name as written: a short name of its namespace, empty for none, and the name in it. -/
structure Written where
  space : String
  base : String
  deriving DecidableEq

abbrev Scan := StateT Cursor Option

namespace Scan

variable {α : Type}

def read? (p : Scan α) (cs : List Char) : Option α :=
  (p.run ⟨cs, 0⟩).map Prod.fst

def rest : Scan (List Char) := do
  return (← get).rest

def goTo (cs : List Char) : Scan Unit :=
  modify fun c => { c with rest := cs }

def refuse : Scan α :=
  fun _ => none

def require (condition : Bool) : Scan Unit :=
  if condition then pure () else refuse

def peek : Scan (Option Char) := do
  return (← rest).head?

def atEnd : Scan Bool := do
  return (← rest).isEmpty

def looksAt (word : String) : Scan Bool := do
  return word.toList.isPrefixOf (← rest)

/-- Takes the text if it comes next. -/
def accept (word : String) : Scan Bool := do
  let cs ← rest
  if word.toList.isPrefixOf cs then
    goTo (cs.drop word.length)
    return true
  else return false

def acceptAny : List String → Scan Bool
  | [] => return false
  | word :: words => do
    if ← accept word then return true else acceptAny words

def expect (word : String) : Scan Unit := do
  require (← accept word)

def takeWhile (p : Char → Bool) : Scan (List Char) := do
  let cs ← rest
  goTo (cs.dropWhile p)
  return cs.takeWhile p

def spaces : Scan Bool := do
  return !(← takeWhile isSpace).isEmpty

def requireSpaces : Scan Unit := do
  require (← spaces)

def skipSpaces : Scan Unit := do
  let _ ← spaces

def cutAt (mark : List Char) : List Char → Option (List Char × List Char)
  | [] => if mark.isEmpty then some ([], []) else none
  | c :: cs =>
    if mark.isPrefixOf (c :: cs) then some ([], (c :: cs).drop mark.length)
    else (cutAt mark cs).map fun (before, after) => (c :: before, after)

/-- The characters up to a mark, which is skipped; all must be characters of a document. -/
def upTo (mark : String) : Scan (List Char) := do
  match cutAt mark.toList (← rest) with
  | some (before, after) =>
    require (before.all isChar)
    goTo after
    return before
  | none => refuse

/-- A name without a colon. -/
def part : Scan String := do
  match ← peek with
  | some c =>
    require (isNameStart c)
    return String.ofList (← takeWhile isNameChar)
  | none => refuse

def qualified : Scan Written := do
  let first ← part
  if ← accept ":" then
    let second ← part
    require ((← peek) != some ':')
    return ⟨first, second⟩
  else return ⟨"", first⟩

def literal : Scan (List Char) := do
  if ← accept "\"" then upTo "\""
  else
    expect "'"
    upTo "'"

def comment : Scan Unit := do
  let _ ← upTo "--"
  expect ">"

/-- An instruction after its opening mark. Its target must not be the name of the markup itself. -/
def instruction : Scan Unit := do
  let target ← part
  require ((← peek) != some ':')
  require (target.toList.map Char.toLower != ['x', 'm', 'l'])
  if ← accept "?>" then return ()
  else
    requireSpaces
    let _ ← upTo "?>"

/-- Blanks, comments and instructions. -/
def miscellany : Nat → Scan Unit
  | 0 => return ()
  | fuel + 1 => do
    skipSpaces
    if ← accept "<!--" then
      comment
      miscellany fuel
    else if ← accept "<?" then
      instruction
      miscellany fuel
    else return ()

/-- The character of a reference by number, after the mark that opens it. -/
def numbered : Scan Char := do
  let hexadecimal ← accept "x"
  let digits ← takeWhile fun c => if hexadecimal then (Text.hexDigit? c).isSome else Text.isAsciiDigit c
  require !digits.isEmpty
  expect ";"
  let n := (if hexadecimal then Text.ofDigits? 16 Text.hexDigit? 0 digits
    else Text.ofDigits? 10 Text.decimalDigit? 0 digits).getD 0
  require (n < 0x110000 && !(0xd800 ≤ n && n ≤ 0xdfff) && isChar (Char.ofNat n))
  return Char.ofNat n

def entityName : Scan String := do
  let name ← part
  expect ";"
  return name

/-- Reads another text to its end, and then goes on in this one. -/
def within (text : List Char) (p : Scan α) : Scan α := do
  let here ← rest
  goTo text
  let a ← p
  require (← atEnd)
  goTo here
  return a

/-- Counts the characters that take the place of a reference. They may not exceed a limit. -/
def charge (amount limit : Nat) : Scan Unit := do
  modify fun c => { c with spent := c.spent + amount }
  require ((← get).spent ≤ limit)

/-- What the first line of a document or entity declares. -/
structure Declaration where
  encoding : Option String
  standalone : Bool

def equals : Scan Unit := do
  skipSpaces
  expect "="
  skipSpaces

/-- Versions that start with `1.`; digits follow. -/
def isVersion : List Char → Bool
  | '1' :: '.' :: rest => rest.all Text.isAsciiDigit
  | _ => false

def isEncodingName : List Char → Bool
  | c :: rest => c.isAlpha && rest.all fun c => c.isAlphanum || c == '.' || c == '_' || c == '-'
  | [] => false

def version : Scan Unit := do
  expect "version"
  equals
  require (isVersion (← literal))

def encodingDeclaration : Scan (Option String) := do
  if ← accept "encoding" then
    equals
    let name ← literal
    require (isEncodingName name)
    return some (String.ofList name)
  else return none

def standaloneDeclaration : Scan Bool := do
  if ← accept "standalone" then
    equals
    match String.ofList (← literal) with
    | "yes" => return true
    | "no" => return false
    | _ => refuse
  else return false

def atDeclarationEnd : Scan Bool := do
  let blank ← spaces
  let done ← looksAt "?>"
  require (blank || done)
  return done

/-- The declaration of a document, if there is one: a version, then an encoding and whether the document
stands alone, which may both be missing. -/
def declaration : Scan Declaration := do
  let cs ← rest
  match cs.drop 5 with
  | c :: _ =>
    if "<?xml".toList.isPrefixOf cs && isSpace c then
      goTo (cs.drop 5)
      skipSpaces
      version
      let done ← atDeclarationEnd
      let encoding ← (if done then pure none else encodingDeclaration)
      let done ← (if encoding.isSome then atDeclarationEnd else looksAt "?>")
      let standalone ← (if done then pure false else standaloneDeclaration)
      skipSpaces
      expect "?>"
      return ⟨encoding, standalone⟩
    else return ⟨none, false⟩
  | [] => return ⟨none, false⟩

/-- The declaration of an entity in a file, if there is one: a version, which may be missing, and an
encoding. -/
def entityDeclaration : Scan Declaration := do
  let cs ← rest
  match cs.drop 5 with
  | c :: _ =>
    if "<?xml".toList.isPrefixOf cs && isSpace c then
      goTo (cs.drop 5)
      skipSpaces
      if ← looksAt "version" then
        version
        requireSpaces
      let encoding ← encodingDeclaration
      require encoding.isSome
      skipSpaces
      expect "?>"
      return ⟨encoding, false⟩
    else return ⟨none, false⟩
  | [] => return ⟨none, false⟩

end Scan
end Xml
end ConfigLayers
