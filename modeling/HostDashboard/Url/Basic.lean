/-
**Links to the search API: their parts and their text.**

A `Url` has a scheme, possibly an authority, a path, and possibly a query and a fragment. All parts
are held in their written, percent-encoded form, so `write` only joins them.
-/

import HostDashboard.Decimal.Natural

namespace HostDashboard

inductive Url.Path where
  /-- A path that is not made of segments; nothing can be appended to it. -/
  | opaqueText (text : List Char)
  /-- Segments, each after a slash. -/
  | segments (segments : List (List Char))
  deriving DecidableEq, Repr

/-- A link in parts. -/
structure Url where
  scheme : List Char
  username : List Char := []
  password : List Char := []
  /-- The host in its written form; empty for a local file. -/
  host : Option (List Char) := none
  /-- The port, unless it is the one that the scheme implies. -/
  port : Option Nat := none
  path : Url.Path
  query : Option (List Char) := none
  fragment : Option (List Char) := none
  deriving DecidableEq, Repr

/-- Why a text is no link. -/
inductive Url.Fault where
  | relativeWithoutBase
  | emptyHost
  | invalidPort
  | invalidIpv4
  | invalidIpv6
  | invalidDomain
  | invalidDomainCharacter
  deriving DecidableEq, Repr

namespace Url

def Fault.message : Fault → String
  | relativeWithoutBase => "relative URL without a base"
  | emptyHost => "empty host"
  | invalidPort => "invalid port number"
  | invalidIpv4 => "invalid IPv4 address"
  | invalidIpv6 => "invalid IPv6 address"
  | invalidDomain => "invalid international domain name"
  | invalidDomainCharacter => "invalid domain character"

/-- The schemes whose links always have a host and a path of segments. -/
def specialSchemes : List (List Char × Option Nat) :=
  [("http".toList, some 80), ("https".toList, some 443), ("ws".toList, some 80),
   ("wss".toList, some 443), ("ftp".toList, some 21), ("file".toList, none)]

def isSpecialScheme (scheme : List Char) : Bool := (specialSchemes.lookup scheme).isSome

def impliedPort? (scheme : List Char) : Option Nat := (specialSchemes.lookup scheme).join

/-- Segments can be appended to the path. -/
def canBeBase (url : Url) : Bool :=
  match url.path with
  | .segments _ => true
  | .opaqueText _ => false

/-- The user and the password before a host. -/
def writeUser (url : Url) : List Char :=
  if url.username.isEmpty && url.password.isEmpty then []
  else url.username ++ (if url.password.isEmpty then [] else ':' :: url.password) ++ ['@']

/-- The authority with its slashes. -/
def writeAuthority (url : Url) : List Char :=
  match url.host with
  | none => []
  | some host =>
    '/' :: '/' :: url.writeUser ++ host
      ++ (match url.port with
        | some port => ':' :: Decimal.digits port
        | none => [])

/-- The path; without a host, one that begins with two slashes is kept apart by a dot. -/
def writePath (url : Url) : List Char :=
  match url.path with
  | .opaqueText text => text
  | .segments segments =>
    let text := segments.flatMap ('/' :: ·)
    if url.host.isNone && ['/', '/'].isPrefixOf text then '/' :: '.' :: text else text

/-- What a request for a link names: the path and the query. -/
def target (url : Url) : List Char :=
  url.writePath ++ (match url.query with
    | some query => '?' :: query
    | none => [])

def write (url : Url) : List Char :=
  url.scheme ++ ':' :: url.writeAuthority ++ url.target
    ++ (match url.fragment with
      | some fragment => '#' :: fragment
      | none => [])

def print (url : Url) : String := String.ofList url.write

end Url

end HostDashboard
