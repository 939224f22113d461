import ConfigLayers.Pattern.Syntax

/-! Reading of regular expressions. A text that is none is refused without a reason. -/
namespace ConfigLayers
namespace Pattern

/-- A character as it stands, or one after a backslash. -/
inductive Token where
  | plain (c : Char)
  | escaped (c : Char)
  deriving DecidableEq, Repr

def tokens : List Char → Option (List Token)
  | [] => some []
  | ['\\'] => none
  | '\\' :: c :: cs => (tokens cs).map (.escaped c :: ·)
  | c :: cs => (tokens cs).map (.plain c :: ·)

structure Flags where
  ignoreCase : Bool
  multiline : Bool
  dotAll : Bool
  verbose : Bool
  ascii : Bool
  deriving DecidableEq, Repr

namespace Flags

def none : Flags := ⟨false, false, false, false, false⟩

/-- The flags with those in the list turned on or off by letter. -/
def set (f : Flags) (on : Bool) (letters : List Char) : Flags :=
  letters.foldl (fun f c => match c with
    | 'i' => { f with ignoreCase := on }
    | 'm' => { f with multiline := on }
    | 's' => { f with dotAll := on }
    | 'x' => { f with verbose := on }
    | 'a' => { f with ascii := on }
    | 'u' => { f with ascii := !on }
    | _ => f) f

end Flags

/-- What has been read: the tokens to come, the width of each group, or none for one that is still open,
the names of groups, the first group of the look-behind around the position, and the groups asked for
in conditions. -/
structure Reading where
  rest : List Token
  widths : List (Option Width)
  names : List (String × Nat)
  behind : Option Nat
  asked : List Nat

abbrev Reader := StateT Reading Option

def refuse {α : Type} : Reader α :=
  fun _ => none

def require (condition : Bool) : Reader Unit :=
  if condition then pure () else refuse

def peek : Reader (Option Token) := do
  return (← get).rest.head?

def advance : Reader Unit :=
  modify fun r => { r with rest := r.rest.drop 1 }

def next : Reader Token := do
  match ← peek with
  | some t => advance; return t
  | none => refuse

def accept (c : Char) : Reader Bool := do
  if (← peek) == some (.plain c) then advance; return true
  else return false

def expect (c : Char) : Reader Unit := do
  require (← accept c)

/-- At most `limit` plain characters of a kind. -/
def takeWhileAtMost (p : Char → Bool) : Nat → Reader (List Char)
  | 0 => return []
  | limit + 1 => do
    match ← peek with
    | some (.plain c) => if p c then advance; return c :: (← takeWhileAtMost p limit) else return []
    | _ => return []

def takeAll (p : Char → Bool) : Reader (List Char) := do
  takeWhileAtMost p (← get).rest.length

def isOctal (c : Char) : Bool :=
  '0' ≤ c && c ≤ '7'

def octalValue (cs : List Char) : Nat :=
  cs.foldl (fun n c => n * 8 + (c.toNat - 0x30)) 0

def decimalValue (cs : List Char) : Nat :=
  cs.foldl (fun n c => n * 10 + (c.toNat - 0x30)) 0

def isAsciiAlpha (c : Char) : Bool :=
  ('a' ≤ c && c ≤ 'z') || ('A' ≤ c && c ≤ 'Z')

def category? (c : Char) : Option Member :=
  match c with
  | 'd' => some (.category .digit false)
  | 'D' => some (.category .digit true)
  | 's' => some (.category .blank false)
  | 'S' => some (.category .blank true)
  | 'w' => some (.category .word false)
  | 'W' => some (.category .word true)
  | _ => none

def control? (c : Char) : Option Nat :=
  match c with
  | 'a' => some 7
  | 'f' => some 12
  | 'n' => some 10
  | 'r' => some 13
  | 't' => some 9
  | 'v' => some 11
  | '\\' => some 0x5c
  | _ => none

def hexCode (count : Nat) : Reader Nat := do
  let digits ← takeWhileAtMost (fun c => (Text.hexDigit? c).isSome) count
  require (digits.length == count)
  return (Text.ofDigits? 16 Text.hexDigit? 0 digits).getD 0

/-- The code point of an escape by number, or of an escaped character that is no letter or digit. -/
def codeEscape (c : Char) : Reader Nat := do
  match c with
  | 'x' => hexCode 2
  | 'u' => hexCode 4
  | 'U' => do
    let n ← hexCode 8
    require (n < 0x110000)
    return n
  | _ => do
    require (!isAsciiAlpha c && !Text.isAsciiDigit c)
    return c.toNat

/-- An escape inside brackets. -/
def memberEscape (c : Char) : Reader Member := do
  let exactly (n : Nat) : Member := .span n n
  if c == 'b' then return exactly 8
  if let some n := control? c then return exactly n
  if let some m := category? c then return m
  if isOctal c then
    let n := octalValue (c :: (← takeWhileAtMost isOctal 2))
    require (n ≤ 0o377)
    return exactly n
  return exactly (← codeEscape c)

def memberOf : Token → Reader Member
  | .escaped c => memberEscape c
  | .plain c => return .span c.toNat c.toNat

/-- The members of a bracketed set up to its closing bracket; the first token is a member whatever it is. -/
def members : Nat → List Member → Reader (List Member)
  | 0, _ => refuse
  | fuel + 1, found => do
    let t ← next
    if t == .plain ']' && !found.isEmpty then return found
    let low ← memberOf t
    if !(← accept '-') then members fuel (found ++ [low])
    else
      let t ← next
      if t == .plain ']' then return found ++ [low, .span 0x2d 0x2d]
      let high ← memberOf t
      match low, high with
      | .span a _, .span b _ =>
        require (a ≤ b)
        members fuel (found ++ [.span a b])
      | _, _ => refuse

def literal (flags : Flags) (n : Nat) : Node :=
  .one (.single n flags.ignoreCase flags.ascii)

def bracketed (flags : Flags) : Reader Node := do
  let negated ← accept '^'
  let found ← members (← get).rest.length []
  return .one ⟨negated, found, flags.ignoreCase, flags.ascii⟩

/-- A reference to a closed group, which inside a look-behind must be older than it. -/
def reference (flags : Flags) (index : Nat) : Reader Node := do
  let r ← get
  match r.widths[index]? with
  | some (some width) =>
    require (index != 0 && match r.behind with
      | some first => index < first
      | none => true)
    return .backReference index flags.ignoreCase flags.ascii width
  | _ => refuse

/-- An escape that starts with a digit other than zero: three octal digits are a code, else the number of a
group. -/
def numberEscape (flags : Flags) (c : Char) : Reader Node := do
  match ← peek with
  | some (.plain d) =>
    if Text.isAsciiDigit d then
      advance
      match ← peek with
      | some (.plain e) =>
        if isOctal c && isOctal d && isOctal e then
          advance
          let n := octalValue [c, d, e]
          require (n ≤ 0o377)
          return literal flags n
      | _ => pure ()
      reference flags (decimalValue [c, d])
    else reference flags (decimalValue [c])
  | _ => reference flags (decimalValue [c])

def escape (flags : Flags) (c : Char) : Reader Node := do
  match c with
  | 'A' => return .anchor .textStart
  | 'Z' => return .anchor .textEnd
  | 'b' => return .anchor (.wordEdge false flags.ascii)
  | 'B' => return .anchor (.wordEdge true flags.ascii)
  | _ =>
    if let some m := category? c then return .one ⟨false, [m], flags.ignoreCase, flags.ascii⟩
    if let some n := control? c then return literal flags n
    if c == '0' then return literal flags (octalValue (← takeWhileAtMost isOctal 2))
    if Text.isAsciiDigit c then numberEscape flags c
    else return literal flags (← codeEscape c)

/-- The bounds between braces, if they form a quantifier. -/
def braces : Reader (Option (Nat × Option Nat)) := do
  let start ← get
  if (← peek) == some (.plain '\x7d') then return none
  let low ← takeAll Text.isAsciiDigit
  let comma ← accept ','
  let high ← (if comma then takeAll Text.isAsciiDigit else pure low)
  if ← accept '\x7d' then
    let least := decimalValue low
    let greatest := if high.isEmpty then none else some (decimalValue high)
    require (match greatest with
      | some g => least ≤ g
      | none => true)
    return some (least, greatest)
  else
    set start
    return none

def isName (cs : List Char) : Bool :=
  match cs with
  | [] => false
  | first :: rest => Text.isWord first && !Text.isDecimalDigit first && rest.all Text.isWord

/-- The characters of a name up to its closing mark. -/
def nameUntil (mark : Char) : Nat → Reader (List Char)
  | 0 => refuse
  | fuel + 1 => do
    match ← next with
    | .plain c => if c == mark then return [] else return c :: (← nameUntil mark fuel)
    | .escaped c => return '\\' :: c :: (← nameUntil mark fuel)

def groupName (mark : Char) : Reader String := do
  let name ← nameUntil mark (← get).rest.length
  require (isName name)
  return String.ofList name

def openGroup (name : Option String) : Reader Nat := do
  let r ← get
  let index := r.widths.length
  match name with
  | none => set { r with widths := r.widths ++ [none] }
  | some name =>
    require (r.names.lookup name).isNone
    set { r with widths := r.widths ++ [none], names := (name, index) :: r.names }
  return index

def closeGroup (index : Nat) (width : Width) : Reader Unit :=
  modify fun r => { r with widths := r.widths.set index (some width) }

def comment : Nat → Reader Unit
  | 0 => refuse
  | fuel + 1 => do
    if (← next) == .plain ')' then return ()
    else comment fuel

/-- A comment up to the end of its line. -/
def lineComment : Nat → Reader Unit
  | 0 => return ()
  | fuel + 1 => do
    match ← peek with
    | none => return ()
    | some t =>
      advance
      if t == .plain '\n' then return ()
      else lineComment fuel

def isFlag (c : Char) : Bool :=
  c == 'i' || c == 'm' || c == 's' || c == 'x' || c == 'a' || c == 'u'

def lettersOff (on : List Char) : Reader (List Char) := do
  let off ← takeAll isFlag
  expect ':'
  require (!off.isEmpty && !off.contains 'a' && !off.contains 'u' && !on.any off.contains)
  return off

/-- The flags after a question mark, where they end, and those after a hyphen. -/
def flagLetters (first : Char) : Reader (List Char × List Char × Char) := do
  if first == '-' then return ([], ← lettersOff [], ':')
  let on := first :: (← takeAll isFlag)
  require !(on.contains 'a' && on.contains 'u')
  match ← next with
  | .plain ')' => return (on, [], ')')
  | .plain ':' => return (on, [], ':')
  | .plain '-' => return (on, ← lettersOff on, ':')
  | _ => refuse

/-- The group that a condition names or counts. -/
def conditionGroup : Reader Nat := do
  let name ← nameUntil ')' (← get).rest.length
  if isName name then
    match (← get).names.lookup (String.ofList name) with
    | some index => return index
    | none => refuse
  else
    require (!name.isEmpty && name.all Text.isAsciiDigit && decimalValue name != 0)
    let index := decimalValue name
    modify fun r => { r with asked := index :: r.asked }
    return index

def requireOlder (index : Nat) : Reader Unit := do
  let r ← get
  match r.behind with
  | none => return ()
  | some first => require ((r.widths[index]?.bind id).isSome && index < first)

def isVerboseBlank (c : Char) : Bool :=
  c == ' ' || c == '\t' || c == '\n' || c == '\r' || c == '\x0b' || c == '\x0c'

/-- What a repetition may apply to. -/
def isRepeatable : Node → Bool
  | .anchor _ | .loop .. => false
  | _ => true

def sequence (items : List Node) : Node :=
  items.foldr Node.seq .empty

def mode : Reader Mode := do
  match ← peek with
  | some (.plain '?') => advance; return .lazy
  | some (.plain '+') => advance; return .possessive
  | _ => return .greedy

/-- Applies a quantifier to the last item. A group is one item, so that its own repetition may be repeated. -/
def quantify (items : List Node) (least : Nat) (greatest : Option Nat) : Reader (List Node) := do
  match items.getLast? with
  | none => refuse
  | some item =>
    require (isRepeatable item)
    return items.dropLast ++ [.loop (← mode) least greatest item]

def finalAnchor (flags : Flags) : Node :=
  .anchor (if flags.multiline then .lineEnd else .finalLineEnd)

def firstAnchor (flags : Flags) : Node :=
  .anchor (if flags.multiline then .lineStart else .textStart)

def anyCharacter (flags : Flags) : Node :=
  .one ⟨true, if flags.dotAll then [] else [.span 10 10], false, false⟩

mutual

/-- Alternatives between bars, the first of the whole expression being allowed to set flags for all. -/
def alternatives (whole : Bool) : Nat → Flags → Reader (Node × Flags)
  | 0, _ => refuse
  | fuel + 1, flags => do
    let (first, flags) ← items whole fuel flags []
    if ← accept '|' then
      let (rest, flags) ← alternativesAfter fuel flags
      return (.alt first rest, flags)
    else return (first, flags)

def alternativesAfter : Nat → Flags → Reader (Node × Flags)
  | 0, _ => refuse
  | fuel + 1, flags => do
    let (first, _) ← items false fuel flags []
    if ← accept '|' then
      let (rest, _) ← alternativesAfter fuel flags
      return (.alt first rest, flags)
    else return (first, flags)

/-- Items up to a bar, a closing parenthesis or the end. -/
def items (whole : Bool) : Nat → Flags → List Node → Reader (Node × Flags)
  | 0, _, _ => refuse
  | fuel + 1, flags, found => do
    match ← peek with
    | none => return (sequence found, flags)
    | some (.escaped c) => do
      advance
      items whole fuel flags (found ++ [← escape flags c])
    | some (.plain c) =>
      if c == '|' || c == ')' then return (sequence found, flags)
      else
        advance
        if flags.verbose && isVerboseBlank c then items whole fuel flags found
        else if flags.verbose && c == '#' then do
          lineComment (← get).rest.length
          items whole fuel flags found
        else match c with
          | '[' => items whole fuel flags (found ++ [← bracketed flags])
          | '?' => items whole fuel flags (← quantify found 0 (some 1))
          | '*' => items whole fuel flags (← quantify found 0 none)
          | '+' => items whole fuel flags (← quantify found 1 none)
          | '\x7b' => match ← braces with
            | some (least, greatest) => items whole fuel flags (← quantify found least greatest)
            | none => items whole fuel flags (found ++ [literal flags c.toNat])
          | '.' => items whole fuel flags (found ++ [anyCharacter flags])
          | '^' => items whole fuel flags (found ++ [firstAnchor flags])
          | '$' => items whole fuel flags (found ++ [finalAnchor flags])
          | '(' =>
            if ← accept '?' then extension whole fuel flags found
            else items whole fuel flags (found ++ [← captured fuel flags none])
          | _ => items whole fuel flags (found ++ [literal flags c.toNat])

def captured : Nat → Flags → Option String → Reader Node
  | 0, _, _ => refuse
  | fuel + 1, flags, name => do
    let index ← openGroup name
    let (body, _) ← alternatives false fuel flags
    expect ')'
    closeGroup index body.width
    return .group index body

/-- A group that captures nothing; it stays one item, so it is wrapped. -/
def uncaptured : Nat → Flags → Reader Node
  | 0, _ => refuse
  | fuel + 1, flags => do
    let (body, _) ← alternatives false fuel flags
    expect ')'
    return .seq body .empty

def lookBehindGroup : Nat → Flags → Bool → Reader Node
  | 0, _, _ => refuse
  | fuel + 1, flags, negated => do
    let outer := (← get).behind
    modify fun r => { r with behind := outer <|> some r.widths.length }
    let (body, _) ← alternatives false fuel flags
    modify fun r => { r with behind := outer }
    expect ')'
    match body.width.fixed? with
    | some width => return .lookBehind negated width body
    | none => refuse

/-- What follows an opening parenthesis and a question mark. -/
def extension (whole : Bool) : Nat → Flags → List Node → Reader (Node × Flags)
  | 0, _, _ => refuse
  | fuel + 1, flags, found => do
    match ← next with
    | .escaped _ => refuse
    | .plain 'P' =>
      if ← accept '<' then
        let name ← groupName '>'
        items whole fuel flags (found ++ [← captured fuel flags (some name)])
      else
        expect '='
        let name ← groupName ')'
        match (← get).names.lookup name with
        | some index => items whole fuel flags (found ++ [← reference flags index])
        | none => refuse
    | .plain ':' => items whole fuel flags (found ++ [← uncaptured fuel flags])
    | .plain '>' => items whole fuel flags (found ++ [.atomic (← uncaptured fuel flags)])
    | .plain '#' => do
      comment (← get).rest.length
      items whole fuel flags found
    | .plain '<' =>
      match ← next with
      | .plain '=' => items whole fuel flags (found ++ [← lookBehindGroup fuel flags false])
      | .plain '!' => items whole fuel flags (found ++ [← lookBehindGroup fuel flags true])
      | _ => refuse
    | .plain '=' => items whole fuel flags (found ++ [.lookAhead false (← uncaptured fuel flags)])
    | .plain '!' => items whole fuel flags (found ++ [.lookAhead true (← uncaptured fuel flags)])
    | .plain '(' => do
      let index ← conditionGroup
      requireOlder index
      let (set, _) ← items false fuel flags []
      if ← accept '|' then
        let (unset, _) ← items false fuel flags []
        expect ')'
        items whole fuel flags (found ++ [.ifGroup index set unset])
      else
        expect ')'
        items whole fuel flags (found ++ [.ifGroup index set .empty])
    | .plain c => do
      require (isFlag c || c == '-')
      let (on, off, mark) ← flagLetters c
      if mark == ')' then
        require (whole && found.isEmpty)
        items whole fuel (flags.set true on) found
      else
        items whole fuel flags (found ++ [← uncaptured fuel ((flags.set true on).set false off)])

end

/-- The tree of an expression, or none when the text is no expression. -/
def parse? (source : String) : Option Node := do
  let ts ← tokens source.toList
  let start : Reading := ⟨ts, [none], [], none, []⟩
  let ((node, _), r) ← (alternatives true (4 * ts.length + 4) .none).run start
  if r.rest.isEmpty && r.asked.all (· < r.widths.length) then some node else none

end Pattern
end ConfigLayers
