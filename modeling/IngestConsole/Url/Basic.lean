import IngestConsole.Numeral.Decimal
import IngestConsole.Url.Host
import IngestConsole.Url.Path

/-!
# URLs

The parts of an absolute URL, and its text.
-/

set_option autoImplicit false

namespace IngestConsole.Url

open Numeral

/-- Who and where: the part of a URL between its scheme and its path. -/
structure Authority where
  username : List Char := []
  password : Option (List Char) := none
  host : Host
  /-- Absent if it is the usual one of the scheme. -/
  port : Option Nat := none
  deriving DecidableEq, Repr

namespace Authority

/-- The user name and password as they stand in a URL. -/
def userText (a : Authority) : List Char :=
  match a.username, a.password with
  | [], none => []
  | username, none => username ++ ['@']
  | username, some password => username ++ ':' :: password ++ ['@']

/-- An authority as it stands in a URL. -/
def text (a : Authority) : List Char :=
  a.userText ++ a.host.text ++
    match a.port with
    | some port => ':' :: digits port
    | none => []

end Authority

end IngestConsole.Url

namespace IngestConsole

/-- An absolute URL. -/
structure Url where
  scheme : List Char
  authority : Option Url.Authority := none
  path : List Char := []
  /-- The path is a text without segments. -/
  isOpaque : Bool := false
  query : Option (List Char) := none
  fragment : Option (List Char) := none
  deriving DecidableEq, Repr

namespace Url

/-- The schemes whose URLs always have segments, with their usual ports. -/
def specialSchemes : List (String × Option Nat) :=
  [("http", some 80), ("https", some 443), ("ws", some 80), ("wss", some 443), ("ftp", some 21),
   ("file", none)]

/-- A scheme whose URLs always have segments. -/
def isSpecial (scheme : List Char) : Bool :=
  specialSchemes.any (·.1.toList == scheme)

/-- The scheme of local files. -/
def isFile (scheme : List Char) : Bool :=
  "file".toList == scheme

/-- The usual port of a scheme. -/
def defaultPort? (scheme : List Char) : Option Nat :=
  (specialSchemes.find? (·.1.toList == scheme)).bind (·.2)

/-- The path and query: what a server is asked for. -/
def target (u : Url) : List Char :=
  u.path ++
    match u.query with
    | some q => '?' :: q
    | none => []

/-- What stands before a path that would be read as an authority. -/
def pathGuard (u : Url) : List Char :=
  match u.authority, u.isOpaque, u.path with
  | none, false, '/' :: '/' :: _ => ['/', '.']
  | _, _, _ => []

/-- The text of a URL. -/
def text (u : Url) : List Char :=
  u.scheme ++ ':'
    :: (match u.authority with
      | some a => '/' :: '/' :: a.text
      | none => [])
    ++ u.pathGuard ++ u.target
    ++ (match u.fragment with
      | some f => '#' :: f
      | none => [])

end Url

end IngestConsole
