import AzcRepair.Http
import AzcRepair.Http.Host

/-!
# Addresses

The address of a request is the endpoint, the path and the query put together and then tidied:
blanks and controls at the ends are dropped, tabs and line ends are dropped everywhere, dot segments
are resolved, and characters that an address cannot hold are written as percent signs with the
hexadecimal digits of their UTF-8 bytes. Query parameters have the form encoding. A name and a
password in front of the host are no part of the address.
-/

namespace AzcRepair.Http

/-- A byte as a percent sign and two digits. -/
def percentByte (byte : UInt8) : List Char :=
  ['%', (Text.hexDigit (byte.toNat / 16)).toUpper, (Text.hexDigit (byte.toNat % 16)).toUpper]

/-- A character as the percent forms of its UTF-8 bytes. -/
def percentChar (c : Char) : List Char :=
  (String.ofList [c]).toUTF8.data.toList.flatMap percentByte

/-- Writes the characters that are not kept in percent form. -/
def percentEncode (keep : Char → Bool) (text : List Char) : List Char :=
  text.flatMap fun c => if keep c then [c] else percentChar c

/-- A printable character of ASCII other than the space. -/
def isGraphic (c : Char) : Bool :=
  0x20 < c.toNat && c.toNat < 0x7F

def keptInPath (c : Char) : Bool :=
  isGraphic c && !List.contains ['"', '#', '<', '>', '?', '\x60', '\x7b', '\x7d'] c

/-- Kept in a query that was written as part of the endpoint. -/
def keptInQuery (c : Char) : Bool :=
  isGraphic c && !List.contains ['"', '#', '<', '>', '\''] c

def keptInFragment (c : Char) : Bool :=
  isGraphic c && !List.contains ['"', '<', '>', '\x60'] c

/-- A name or value of a query parameter in form encoding. -/
def formEncode (text : String) : String :=
  String.ofList (text.toList.flatMap fun c =>
    if c = ' ' then ['+']
    else if c.isAlphanum || ['*', '-', '.', '_'].contains c then [c]
    else percentChar c)

def formQuery (parameters : List (String × String)) : String :=
  "&".intercalate (parameters.map fun p => formEncode p.1 ++ "=" ++ formEncode p.2)

/-- The segment stands for the directory it is in. -/
def isSingleDot (segment : String) : Bool :=
  [".", "%2e"].contains (String.ofList (segment.toList.map Char.toLower))

/-- The segment stands for the directory above. -/
def isDoubleDot (segment : String) : Bool :=
  ["..", ".%2e", "%2e.", "%2e%2e"].contains (String.ofList (segment.toList.map Char.toLower))

/-- Resolves dot segments; `kept` holds the segments so far, the last one first. A dot segment at
the end leaves an empty one. -/
def resolveSegments (kept : List String) : List String → List String
  | [] => kept.reverse
  -- the last segment decides whether the path ends in a slash
  | [last] =>
    if isDoubleDot last then ("" :: kept.tail).reverse
    else if isSingleDot last then ("" :: kept).reverse
    else (last :: kept).reverse
  | segment :: rest =>
    if isDoubleDot segment then resolveSegments kept.tail rest
    else if isSingleDot segment then resolveSegments kept rest
    else resolveSegments (segment :: kept) rest

/-- The path with its dot segments resolved. It always begins with a slash, also when the endpoint
had no path at all. -/
def tidyPath (path : List Char) : String :=
  -- a backslash is a slash here, and the encoding leaves it as it is
  let path := (percentEncode keptInPath path).map fun c => if c = '\\' then '/' else c
  let path := if path.head? = some '/' then path.tail else path
  "/" ++ "/".intercalate (resolveSegments [] ((path.splitOn '/').map String.ofList))

def isOuterBlank (c : Char) : Bool :=
  c.toNat ≤ 0x20

/-- The characters of an address that count. -/
def significant (text : List Char) : List Char :=
  (((text.dropWhile isOuterBlank).reverse.dropWhile isOuterBlank).reverse).filter fun c =>
    c ≠ '\t' && c ≠ '\n' && c ≠ '\r'

structure Address where
  /-- `http` or `https`. -/
  scheme : String
  host : Host
  /-- The port, unless it is the usual one of the scheme. -/
  port : Option Nat
  path : String
  query : Option String
  fragment : Option String
  deriving DecidableEq, Repr

/-- Why a text is no address for requests. -/
inductive Address.Problem where
  | noScheme
  | host (problem : Host.Problem)
  | port
  /-- Neither of the two schemes; the address is given as text. -/
  | otherScheme (address : String)
  /-- The address cannot be part of a request. -/
  | unfit (address : String)
  deriving DecidableEq, Repr

namespace Address.Problem

def message : Problem → String
  | noScheme => "relative URL without a base"
  | host problem => problem.message
  | port => "invalid port number"
  | otherScheme _ => "URL scheme is not allowed"
  | unfit _ => "Parsed Url is not a valid Uri"

/-- The address, when the text is one. -/
def address? : Problem → Option String
  | otherScheme address | unfit address => some address
  | _ => none

end Address.Problem

namespace Address

/-- The scheme in front of a text, and what follows its colon. -/
def readScheme (text : List Char) : Except Problem (String × List Char) :=
  let name := text.takeWhile fun c => c.isAlphanum || c = '+' || c = '-' || c = '.'
  match text.drop name.length with
  | ':' :: rest =>
    if (name.head?.map Char.isAlpha).getD false then
      let scheme := String.ofList (name.map Char.toLower)
      -- any other scheme is an address too, only none that a request can go to
      if scheme = "http" || scheme = "https" then .ok (scheme, rest)
      else .error (.otherScheme (String.ofList (name.map Char.toLower ++ ':' ::
        percentEncode (fun c => 0x20 ≤ c.toNat && c.toNat < 0x7F) rest)))
    else .error .noScheme
  | _ => .error .noScheme

/-- The port that a scheme has when none is given. -/
def usualPort (scheme : String) : Nat :=
  if scheme = "http" then 80 else 443

def maxPort : Nat := 65535

/-- The port behind a host, unless it is the usual one or left out. -/
def readPort (scheme : String) (text : List Char) : Except Problem (Option Nat) :=
  match text with
  | [] | [':'] => .ok none
  | ':' :: digits =>
    let port := Text.natOfDigits digits
    if !digits.all Char.isDigit || maxPort < port then .error .port
    else .ok (if port = usualPort scheme then none else some port)
  | _ => .error .port

/-- The text of a host in front of a colon that is not in brackets, and the rest. -/
def splitHost (inBrackets : Bool) : List Char → List Char × List Char
  | [] => ([], [])
  | c :: rest =>
    if c = ':' && !inBrackets then ([], c :: rest)
    else
      let within := if c = '[' then true else if c = ']' then false else inBrackets
      let (host, rest) := splitHost within rest
      (c :: host, rest)

/-- Reads a host and a port. A name and a password, up to the last at sign, are passed over. -/
def readAuthority (scheme : String) (text : List Char) : Except Problem (Host × Option Nat) := do
  -- the last at sign counts: a password may hold others
  let text := (text.reverse.takeWhile (· ≠ '@')).reverse
  let (host, port) := splitHost false text
  return (← (Host.read host).mapError .host, ← readPort scheme port)

/-- The part of a text after the first `mark`, when there is one. -/
def afterMark? (mark : Char) (text : List Char) : Option (List Char) :=
  match text.dropWhile (· ≠ mark) with
  | _ :: rest => some rest
  | [] => none

/-- Reads an address without asking whether a request can hold it. -/
def readParts (text : String) : Except Problem Address := do
  let (scheme, rest) ← readScheme (significant text.toList)
  let rest := rest.dropWhile fun c => c = '/' || c = '\\'
  let isEnd := fun c : Char => c = '/' || c = '\\' || c = '?' || c = '#'
  let (host, port) ← readAuthority scheme (rest.takeWhile (!isEnd ·))
  let rest := rest.dropWhile (!isEnd ·)
  let beforeFragment := rest.takeWhile (· ≠ '#')
  let encode := fun keep chars => String.ofList (percentEncode keep chars)
  return {
    scheme, host, port
    path := tidyPath (beforeFragment.takeWhile (· ≠ '?'))
    query := (afterMark? '?' beforeFragment).map (encode keptInQuery)
    fragment := (afterMark? '#' rest).map (encode keptInFragment) }

/-- Adds query parameters behind those that the endpoint already has. The parameters are in form
encoding, while those of the endpoint stay as they were written. -/
def withQuery (address : Address) (parameters : List (String × String)) : Address :=
  let added := formQuery parameters
  match address.query with
  | none | some "" => { address with query := some added }
  | some query => { address with query := some (query ++ "&" ++ added) }

/-- What a request asks its server for: the path and the query. -/
def target (address : Address) : String :=
  address.path ++ (address.query.map ("?" ++ ·)).getD ""

def text (address : Address) : String :=
  address.scheme ++ "://" ++ address.host.text ++
    (address.port.map fun port => ":" ++ Text.decimal port).getD "" ++ address.target ++
    (address.fragment.map ("#" ++ ·)).getD ""

/-- The longest address of a request, in bytes. -/
def maxLength : Nat := 65534

/-- A request can hold the address: it is short enough, and its host has no characters that only
names can have. An address that is read can still fail this, with a report of its own. -/
def isFit (address : Address) : Bool :=
  address.text.utf8ByteSize ≤ maxLength &&
    !address.host.text.toList.any (['"', '\x60', '\x7b', '\x7d'].contains ·)

/-- Reads the address of a request to which query parameters are added. -/
def read (text : String) (parameters : List (String × String)) : Except Problem Address := do
  let address := (← readParts text).withQuery parameters
  if address.isFit then return address else throw (.unfit address.text)

/-- What sending to an address comes to when the network cannot be reached. -/
def unreachable (address : String) : Worker.Network :=
  ⟨.sending, "error sending request for url (" ++ address ++ ")",
    ["client error (Connect)", "tcp connect error", "Network is unreachable (os error 101)"]⟩

end Address

end AzcRepair.Http
