import IngestConsole.Url.Address
import IngestConsole.Url.Domain

/-!
# Hosts

A host is a name or an address.  Under a special scheme a name is a domain name; under another it
is any text.
-/

set_option autoImplicit false

namespace IngestConsole.Url

open Text

/-- Why a text is no URL. -/
inductive UrlError
  | emptyHost
  | invalidDomain
  | invalidPort
  | invalidIpv4
  | invalidIpv6
  | invalidHostCharacter
  | relative
  deriving DecidableEq, Repr

/-- The wording of a URL error. -/
def UrlError.message : UrlError → String
  | emptyHost => "empty host"
  | invalidDomain => "invalid international domain name"
  | invalidPort => "invalid port number"
  | invalidIpv4 => "invalid IPv4 address"
  | invalidIpv6 => "invalid IPv6 address"
  | invalidHostCharacter => "invalid domain character"
  | relative => "relative URL without a base"

/-- A host. -/
inductive Host
  | name (s : List Char)
  | ipv4 (address : Nat)
  | ipv6 (pieces : List Nat)
  deriving DecidableEq, Repr

namespace Host

/-- A host as it stands in a URL. -/
def text : Host → List Char
  | name s => s
  | ipv4 address => ipv4Text address
  | ipv6 pieces => '[' :: ipv6Text pieces ++ [']']

/-- The text between brackets as an address. -/
def ofBrackets (s : List Char) : Except UrlError Host :=
  if s.getLast? = some ']' then
    match ipv6? s.dropLast with
    | some pieces => .ok (ipv6 pieces)
    | none => .error .invalidIpv6
  else .error .invalidIpv6

/-- The host of a special scheme. -/
def ofDomain (s : List Char) : Except UrlError Host :=
  match domainAscii? (decodeBytes (percentDecode s)) with
  | none => .error .invalidDomain
  | some domain =>
    if domain.isEmpty then .error .emptyHost
    else if endsInNumber domain then
      match ipv4? domain with
      | some address => .ok (ipv4 address)
      | none => .error .invalidIpv4
    else .ok (name domain)

/-- A character that no host holds. -/
def isRefused (c : Char) : Bool :=
  ['\x00', '\t', '\n', '\r', ' ', '#', '/', ':', '<', '>', '?', '@', '[', '\\', ']', '^',
   '|'].contains c

/-- The host of a scheme that is not special. -/
def ofOpaque (s : List Char) : Except UrlError Host :=
  if s.any isRefused then .error .invalidHostCharacter
  else .ok (name (percentEncode isControl s))

/-- Reads a host. -/
def parse (special : Bool) (s : List Char) : Except UrlError Host :=
  match s with
  | '[' :: rest => ofBrackets rest
  | s => if special then ofDomain s else ofOpaque s

end Host

end IngestConsole.Url
