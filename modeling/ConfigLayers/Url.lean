import ConfigLayers.Error
import ConfigLayers.Text.Case
import ConfigLayers.Text.Utf8

/-! Uniform resource locators: their parts, the host and port of an authority, references relative to a
base, and percent-decoding. -/
namespace ConfigLayers

/-- The five parts of a locator; a part that is missing is empty. -/
structure Url where
  scheme : String
  authority : List Char
  path : List Char
  query : List Char
  fragment : List Char
  deriving DecidableEq

namespace Url

open Text

def isAsciiLetter (c : Char) : Bool :=
  (0x41 ≤ c.toNat && c.toNat ≤ 0x5a) || (0x61 ≤ c.toNat && c.toNat ≤ 0x7a)

def isSchemeChar (c : Char) : Bool :=
  isAsciiLetter c || isAsciiDigit c || c == '+' || c == '-' || c == '.'

/-- The lists before and after the first occurrence of a character, if it occurs. -/
def cut (c : Char) : List Char → Option (List Char × List Char)
  | [] => none
  | d :: ds => if d == c then some ([], ds) else (cut c ds).map fun (before, after) => (d :: before, after)

def cutOr (c : Char) (cs : List Char) : List Char × List Char :=
  (cut c cs).getD (cs, [])

def afterLast (c : Char) (cs : List Char) : List Char :=
  (cs.reverse.takeWhile (· != c)).reverse

/-- A scheme is a letter followed by scheme characters, in front of a colon. -/
def splitScheme (cs : List Char) : Option (String × List Char) :=
  match cut ':' cs with
  | some (first :: rest, after) =>
    if isAsciiLetter first && rest.all isSchemeChar then some (lower (String.ofList (first :: rest)), after)
    else none
  | _ => none

def isAuthorityEnd (c : Char) : Bool :=
  c == '/' || c == '?' || c == '#'

/-- Characters outside ASCII whose compatibility form holds a delimiter of locators. -/
def hidesDelimiter (c : Char) : Bool :=
  [0x2047, 0x2048, 0x2049, 0x2100, 0x2101, 0x2105, 0x2106, 0x2a74, 0xfe13, 0xfe16, 0xfe55, 0xfe56, 0xfe5f,
    0xfe6b, 0xff03, 0xff0f, 0xff1a, 0xff1f, 0xff20].contains c.toNat

def isGroup (cs : List Char) : Bool :=
  !cs.isEmpty && cs.length ≤ 4 && cs.all fun c => (hexDigit? c).isSome

def isOctet (cs : List Char) : Bool :=
  cs.all isAsciiDigit && cs.length ≤ 3 && (cs.head? != some '0' || cs == ['0']) &&
    (Integer.unsigned? cs).any (· ≤ 255)

def isQuad (cs : List Char) : Bool :=
  (splitChars '.' cs).length == 4 && (splitChars '.' cs).all isOctet

/-- How many groups of sixteen bits the texts between colons are; the last one may be four octets. -/
def groups? : List (List Char) → Option Nat
  | [] => some 0
  | [last] => if isGroup last then some 1 else if isQuad last then some 2 else none
  | group :: rest => if isGroup group then (groups? rest).map (· + 1) else none

/-- The lists before and after the first two colons in a row, if there are such. -/
def cutGap : List Char → Option (List Char × List Char)
  | [] => none
  | c :: cs =>
    if c == ':' && cs.head? == some ':' then some ([], cs.tail)
    else (cutGap cs).map fun (before, after) => (c :: before, after)

def colonParts (cs : List Char) : List (List Char) :=
  if cs.isEmpty then [] else splitChars ':' cs

/-- An address has eight groups, or fewer with a gap of zeros. -/
def isAddress (cs : List Char) : Bool :=
  match cutGap cs with
  | none => groups? (colonParts cs) == some 8
  | some (before, after) =>
    (colonParts before).all isGroup &&
      (groups? (colonParts after)).any fun n => (colonParts before).length + n ≤ 7

def isZoned (cs : List Char) : Bool :=
  match cut '%' cs with
  | some (address, zone) => isAddress address && !zone.isEmpty && !zone.contains '%'
  | none => isAddress cs

/-- An address of a version that is still to come. -/
def isFuture : List Char → Bool
  | 'v' :: cs =>
    match cut '.' cs with
    | some (version, rest) => !version.isEmpty && version.all (fun c => (hexDigit? c).isSome) && !rest.isEmpty
    | none => false
  | _ => false

def isBracketable (host : List Char) : Bool :=
  isZoned host || isFuture host

/-- The host and port texts of an authority: after the user, with the brackets of an address removed. -/
def hostAndPort (authority : List Char) : List Char × List Char :=
  let place := afterLast '@' authority
  match cut '[' place with
  | some (_, bracketed) =>
    let (host, rest) := cutOr ']' bracketed
    (host, (cutOr ':' rest).2)
  | none => cutOr ':' place

/-- Nothing stands in front of the brackets of a host, and only a port behind them. -/
def bracketsAreOuter (authority : List Char) : Bool :=
  match cut '[' (afterLast '@' authority) with
  | some (before, bracketed) => before.isEmpty && (cutOr ']' bracketed).2.head?.all (· == ':')
  | none => true

/-- With brackets in an authority its host must be an address. -/
def authorityIsValid (cs : List Char) : Bool :=
  cs.contains '[' == cs.contains ']' && !cs.any hidesDelimiter &&
    (!cs.contains '[' || bracketsAreOuter cs && isBracketable (hostAndPort cs).1)

/-- Takes a locator apart; tabs and line breaks in it do not count. -/
def split (s : String) (defaultScheme : String) : Except Error Url := do
  let cs := s.toList.filter fun c => c != '\t' && c != '\r' && c != '\n'
  let (scheme, rest) := (splitScheme cs).getD (defaultScheme, cs)
  let (authority, rest) := match rest with
    | '/' :: '/' :: rest => (rest.takeWhile (!isAuthorityEnd ·), rest.dropWhile (!isAuthorityEnd ·))
    | _ => ([], rest)
  if !authorityIsValid authority then throw .malformedUrl
  let (rest, fragment) := cutOr '#' rest
  let (path, query) := cutOr '?' rest
  return ⟨scheme, authority, path, query, fragment⟩

/-- The host in lower case, but for the zone after a percent sign; none when it is empty. -/
def host? (u : Url) : Option String :=
  match (hostAndPort u.authority).1 with
  | [] => none
  | host => match cut '%' host with
    | some (name, zone) => some (lower (String.ofList name) ++ "%" ++ String.ofList zone)
    | none => some (lower (String.ofList host))

/-- The port: none when it is missing or empty, else ASCII digits for a number below 65536. -/
def port? (u : Url) : Except Error (Option Nat) :=
  match (hostAndPort u.authority).2 with
  | [] => .ok none
  | digits =>
    if digits.all isAsciiDigit && digits.length ≤ Integer.maxDigits then
      let port := (Integer.unsigned? digits).getD 0
      if port ≤ 65535 then .ok (some port) else .error .malformedUrl
    else .error .malformedUrl

def relativeSchemes : List String :=
  ["", "ftp", "http", "gopher", "nntp", "imap", "wais", "file", "https", "shttp", "mms", "prospero", "rtsp",
    "rtsps", "rtspu", "sftp", "svn", "svn+ssh", "ws", "wss"]

def authoritySchemes : List String :=
  ["", "ftp", "http", "gopher", "nntp", "telnet", "imap", "wais", "file", "mms", "https", "shttp", "snews",
    "prospero", "rtsp", "rtsps", "rtspu", "rsync", "svn", "svn+ssh", "sftp", "nfs", "git", "git+ssh", "ws",
    "wss"]

def parameterSchemes : List String :=
  ["", "ftp", "hdl", "prospero", "http", "imap", "https", "shttp", "rtsp", "rtsps", "rtspu", "sip", "sips",
    "mms", "sftp", "tel"]

/-- Separates the parameters of the last segment from a path. -/
def splitParameters (scheme : String) (path : List Char) : List Char × List Char :=
  if parameterSchemes.contains scheme && path.contains ';' then
    let last := afterLast '/' path
    match cut ';' last with
    | some (before, parameters) => (path.take (path.length - last.length) ++ before, parameters)
    | none => (path, [])
  else (path, [])

def text (u : Url) : String :=
  let rest :=
    if !u.authority.isEmpty
        || (u.scheme != "" && authoritySchemes.contains u.scheme && !("//".toList.isPrefixOf u.path)) then
      let path := match u.path with
        | [] => []
        | '/' :: rest => '/' :: rest
        | path => '/' :: path
      '/' :: '/' :: u.authority ++ path
    else u.path
  let withScheme := if u.scheme != "" then u.scheme.toList ++ ':' :: rest else rest
  let withQuery := if u.query.isEmpty then withScheme else withScheme ++ '?' :: u.query
  String.ofList (if u.fragment.isEmpty then withQuery else withQuery ++ '#' :: u.fragment)

/-- Removes `.` segments, and each `..` segment with the one before it. -/
def resolveDots (segments : List (List Char)) : List (List Char) :=
  (segments.foldl (fun kept segment =>
    if segment == ['.', '.'] then kept.drop 1
    else if segment == ['.'] then kept
    else segment :: kept) []).reverse

def joinSegments : List (List Char) → List Char
  | [] => []
  | [s] => s
  | s :: rest => s ++ '/' :: joinSegments rest

/-- The inner segments that are not empty, with the first and the last one. -/
def dropEmptyInner : List (List Char) → List (List Char)
  | [] => []
  | [s] => [s]
  | first :: rest => first :: (rest.dropLast.filter (!·.isEmpty)) ++ [rest.getLast?.getD []]

/-- The path of a reference against the path of its base, both with segments between slashes. -/
def mergePaths (base path : List Char) : List Char :=
  let own := splitChars '/' path
  let segments :=
    if path.head? == some '/' then own
    else
      let parts := splitChars '/' base
      let kept := if parts.getLast?.getD [] == [] then parts else parts.dropLast
      dropEmptyInner (kept ++ own)
  let resolved := resolveDots segments
  let last := segments.getLast?.getD []
  let closed := if last == ['.'] || last == ['.', '.'] then resolved ++ [[]] else resolved
  match joinSegments closed with
  | [] => ['/']
  | joined => joined

def withParameters (path parameters : List Char) : List Char :=
  if parameters.isEmpty then path else path ++ ';' :: parameters

/-- The locator that a reference means in a document with the given base. -/
def join (base reference : String) : Except Error String := do
  if base == "" then return reference
  if reference == "" then return base
  let b ← split base ""
  let r ← split reference b.scheme
  if r.scheme != b.scheme || !relativeSchemes.contains r.scheme then return reference
  if authoritySchemes.contains r.scheme && !r.authority.isEmpty then
    let (path, parameters) := splitParameters r.scheme r.path
    return text { r with path := withParameters path parameters }
  let authority := if authoritySchemes.contains r.scheme then b.authority else r.authority
  let (path, parameters) := splitParameters r.scheme r.path
  let (basePath, baseParameters) := splitParameters b.scheme b.path
  if path.isEmpty && parameters.isEmpty then
    let query := if r.query.isEmpty then b.query else r.query
    return text { r with authority, path := withParameters basePath baseParameters, query }
  return text { r with authority, path := withParameters (mergePaths basePath path) parameters }

def isLocator (s : String) : Bool :=
  match cut ':' s.toList with
  | some (first :: rest, '/' :: _) => isAsciiLetter first && rest.all isSchemeChar
  | _ => false

/-- The bytes of a text, each percent sign with two hexadecimal digits being one byte. -/
def percentBytes : List Char → List UInt8
  | [] => []
  | '%' :: a :: b :: rest =>
    match hexDigit? a, hexDigit? b with
    | some high, some low => UInt8.ofNat (high * 16 + low) :: percentBytes rest
    | _, _ => 0x25 :: percentBytes (a :: b :: rest)
  | c :: rest => Utf8.encodeChar c ++ percentBytes rest
termination_by cs => cs.length

def percentDecode (cs : List Char) : String :=
  String.ofList (Utf8.decodeLossy (percentBytes cs))

end Url
end ConfigLayers
