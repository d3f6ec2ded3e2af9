/-
**Reading links.**

The text loses the controls and blanks at both ends and every tab and line break; it must begin with a
scheme. For special schemes a reverse solidus counts as a slash, any number of slashes may stand
before the host, and a host is required; other schemes have a host only after two slashes, and without
any slash their path is opaque.
-/

import HostDashboard.Text.Escape
import HostDashboard.Url.Address
import HostDashboard.Url.Basic
import HostDashboard.Url.Domain

namespace HostDashboard.Url

/-! ### Which characters stand for themselves -/

/-- Printable ASCII characters other than some. -/
def plainExcept (others : List Char) (c : Char) : Bool :=
  0x20 ≤ c.toNat && c.toNat < 0x7F && !others.contains c

def pathEscapes : List Char := [' ', '"', '<', '>', '\x60', '#', '?', '\x7b', '\x7d']

/-- Characters that are escaped in a user or password. -/
def userEscapes : List Char :=
  pathEscapes ++ ['/', ':', ';', '=', '@', '[', '\\', ']', '^', '|']

def queryEscapes (special : Bool) : List Char :=
  [' ', '"', '#', '<', '>'] ++ (if special then ['\''] else [])

def fragmentEscapes : List Char := [' ', '"', '<', '>', '\x60']

/-- A text with some characters, all controls and all beyond ASCII escaped. -/
def escapeExcept (escapes : List Char) (source : List Char) : List Char :=
  Text.Percent.escape (plainExcept escapes) source

/-! ### The host -/

/-- Characters that an opaque host must not have. -/
def opaqueHostRefuses : List Char :=
  ['\x00', '\t', '\n', '\r', ' ', '#', '/', ':', '<', '>', '?', '@', '[', '\\', ']', '^', '|']

/-- A host between brackets. -/
def bracketed? (source : List Char) : Except Fault (List Char) :=
  if source.getLast? = some ']' then
    match Address.ipv6? source.dropLast.tail with
    | some groups => .ok (Address.writeIpv6 groups)
    | none => .error .invalidIpv6
  else .error .invalidIpv6

/-- The host of a special scheme: an address, or a domain name in ASCII. -/
def specialHost? (source : List Char) : Except Fault (List Char) :=
  if source.head? = some '[' then bracketed? source
  else
    let octets := Text.Percent.unescape (Text.Utf8.encode source)
    if Text.Utf8.isWellFormed octets then
      match Domain.toAscii? (Text.Utf8.decode octets) with
      | none => .error .invalidDomain
      | some name =>
        if name.isEmpty then .error .emptyHost
        else if Address.endsInNumber name then
          match Address.ipv4? name with
          | some address => .ok (Address.writeIpv4 address)
          | none => .error .invalidIpv4
        else .ok name
    else .error .invalidDomain

/-- The host of another scheme. -/
def opaqueHost? (source : List Char) : Except Fault (List Char) :=
  if source.head? = some '[' then bracketed? source
  else if source.any opaqueHostRefuses.contains then .error .invalidDomainCharacter
  else .ok (escapeExcept [] source)

def endsAuthority (special : Bool) (c : Char) : Bool :=
  c = '/' || c = '?' || c = '#' || (special && c = '\\')

/-- The host at the front, up to a colon outside brackets, and what follows it. -/
def splitHost : Bool → List Char → List Char × List Char
  | _, [] => ([], [])
  | inside, c :: rest =>
    if c = ':' && !inside then ([], c :: rest)
    else
      let next := if c = '[' then true else if c = ']' then false else inside
      let (host, after) := splitHost next rest
      (c :: host, after)

/-- The port after its colon, if it is not the implied one. -/
def port? (scheme : List Char) (source : List Char) : Except Fault (Option Nat) :=
  if source.isEmpty then .ok none
  else match Decimal.read? source with
    | none => .error .invalidPort
    | some port =>
      if port < 65536 then .ok (if impliedPort? scheme = some port then none else some port)
      else .error .invalidPort

/-- The text before and after the last at sign. -/
def splitUser (source : List Char) : Option (List Char) × List Char :=
  if source.contains '@' then
    let host := (source.reverse.takeWhile (· ≠ '@')).reverse
    (some (source.take (source.length - host.length - 1)), host)
  else (none, source)

/-- A link with the user, host and port that its authority names. -/
def withAuthority (url : Url) (authority : List Char) : Except Fault Url := do
  let special := isSpecialScheme url.scheme
  let (user, rest) := splitUser authority
  let (name, password) := Text.cut ':' (user.getD [])
  let (hostText, after) := splitHost false rest
  if hostText.isEmpty && (special || !after.isEmpty || user.isSome) then .error .emptyHost
  let host ← if special then specialHost? hostText else opaqueHost? hostText
  let port ← match after with
    | _ :: digits => port? url.scheme digits
    | [] => .ok none
  return { url with
    username := escapeExcept userEscapes name
    password := escapeExcept userEscapes (password.getD [])
    host := some host
    port }

/-! ### The path -/

/-- A segment that stands for the one above. -/
def isDoubleDot (segment : List Char) : Bool :=
  ["..", ".%2e", "%2e.", "%2e%2e"].contains (String.ofList (segment.map Char.toLower))

/-- A segment that stands for nothing. -/
def isSingleDot (segment : List Char) : Bool :=
  [".", "%2e"].contains (String.ofList (segment.map Char.toLower))

/-- A drive letter with a colon or a bar. -/
def isDrive (segment : List Char) : Bool :=
  match segment with
  | [letter, mark] => letter.isAlpha && (mark = ':' || mark = '|')
  | _ => false

/-- Segments without the last one; the drive of a local file stays. -/
def shortened (file : Bool) (path : List (List Char)) : List (List Char) :=
  match path with
  | [drive] => if file && isDrive drive then path else []
  | _ => path.dropLast

/-- Segments with one more, which may be a dot or a double dot. A dot at the end leaves an empty
segment. -/
def addSegment (file : Bool) (path : List (List Char)) (segment : List Char) (final : Bool) :
    List (List Char) :=
  if isDoubleDot segment then shortened file path ++ (if final then [[]] else [])
  else if isSingleDot segment then path ++ (if final then [[]] else [])
  else if file && path.isEmpty && isDrive segment then path ++ [segment.take 1 ++ [':']]
  else path ++ [segment]

/-- The segments of a path, from left to right. -/
def addSegments (file : Bool) : List (List Char) → List (List Char) → List (List Char)
  | path, [] => path
  | path, [segment] => addSegment file path segment true
  | path, segment :: rest => addSegments file (addSegment file path segment false) rest

/-- The segments of the text after the first slash. -/
def segmentsOf (file special : Bool) (source : List Char) : List (List Char) :=
  let slashes := source.map fun c => if special && c = '\\' then '/' else c
  addSegments file [] ((Text.pieces '/' slashes).map (escapeExcept pathEscapes))

/-- A text without a slash in front. -/
def withoutSlash (special : Bool) : List Char → List Char
  | '/' :: rest => rest
  | '\\' :: rest => if special then rest else '\\' :: rest
  | source => source

/-- The path after an authority. A special scheme always has one. -/
def pathAfterHost (scheme : List Char) (source : List Char) : Path :=
  let special := isSpecialScheme scheme
  if !special && source.isEmpty then .segments []
  else .segments (segmentsOf (scheme == "file".toList) special (withoutSlash special source))

/-! ### The whole -/

/-- The scheme in small letters, and what follows its colon. -/
def scheme? (source : List Char) : Option (List Char × List Char) :=
  match Text.cut ':' source with
  | (c :: name, some rest) =>
    if c.isAlpha && name.all (fun d => d.isAlphanum || d = '+' || d = '-' || d = '.') then
      some ((c :: name).map Char.toLower, rest)
    else none
  | _ => none

/-- The authority at the front, and what follows it. -/
def splitAuthority (special : Bool) (source : List Char) : List Char × List Char :=
  (source.takeWhile fun c => !endsAuthority special c,
    source.dropWhile fun c => !endsAuthority special c)

/-- The link of a local file. -/
def file? (url : Url) (source : List Char) : Except Fault Url :=
  let isSlash (c : Char) : Bool := c = '/' || c = '\\'
  match source with
  | a :: b :: rest =>
    if isSlash a && isSlash b then
      let (hostText, after) := splitAuthority true rest
      if isDrive hostText then
        .ok { url with host := some [], path := .segments (segmentsOf true true rest) }
      else do
        let host ← if hostText.isEmpty then .ok [] else specialHost? hostText
        let host := if host = "localhost".toList then [] else host
        return { url with host := some host, path := pathAfterHost url.scheme after }
    else .ok { url with host := some [], path := pathAfterHost url.scheme source }
  | _ => .ok { url with host := some [], path := pathAfterHost url.scheme source }

/-- The authority and the path of a link from what follows its scheme. -/
def hierarchy? (url : Url) (source : List Char) : Except Fault Url :=
  if url.scheme = "file".toList then file? url source
  else if isSpecialScheme url.scheme then do
    let (authority, after) := splitAuthority true (source.dropWhile fun c => c = '/' || c = '\\')
    let url ← withAuthority url authority
    return { url with path := pathAfterHost url.scheme after }
  else match source with
    | '/' :: '/' :: rest => do
      let (authority, after) := splitAuthority false rest
      let url ← withAuthority url authority
      return { url with path := pathAfterHost url.scheme after }
    | '/' :: rest => .ok { url with path := .segments (segmentsOf false false rest) }
    | _ => .ok { url with path := .opaqueText (escapeExcept [] source) }

/-- The characters of a text that count: no controls or blanks at its ends, no tabs or breaks. -/
def significant (source : List Char) : List Char :=
  let edge (c : Char) : Bool := c.toNat ≤ 0x20
  ((((source.dropWhile edge).reverse.dropWhile edge).reverse).filter fun c =>
    !(c = '\t' || c = '\n' || c = '\r'))

def read (source : List Char) : Except Fault Url :=
  match scheme? (significant source) with
  | none => .error .relativeWithoutBase
  | some (scheme, rest) => do
    let (beforeFragment, fragment) := Text.cut '#' rest
    let (hierarchy, query) := Text.cut '?' beforeFragment
    let url ← hierarchy? { scheme, path := .segments [] } hierarchy
    return { url with
      query := query.map (escapeExcept (queryEscapes (isSpecialScheme scheme)))
      fragment := fragment.map (escapeExcept fragmentEscapes) }

end HostDashboard.Url
