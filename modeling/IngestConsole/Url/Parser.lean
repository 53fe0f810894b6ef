import IngestConsole.Url.Basic

/-!
# Reading URLs

An absolute URL is read from left to right: scheme, authority, path, query and fragment.  Blanks
and controls at both ends are dropped, and so are characters that only lay out the text.  A
backslash is read as a slash where the scheme is special.
-/

set_option autoImplicit false

namespace IngestConsole.Url

open Numeral

/-- A text without controls and blanks at both ends. -/
def stripControls (s : List Char) : List Char :=
  let skip := fun (c : Char) => c.toNat ≤ 0x20
  ((s.dropWhile skip).reverse.dropWhile skip).reverse

/-- A character of a scheme after its first letter. -/
def isSchemeChar (c : Char) : Bool :=
  c.isAlphanum || c == '+' || c == '-' || c == '.'

/-- Reads a scheme and its colon. -/
def readScheme? (s : List Char) : Option (List Char × List Char) :=
  match s with
  | c :: _ =>
    if c.isAlpha then
      match s.dropWhile isSchemeChar with
      | ':' :: rest => some ((s.takeWhile isSchemeChar).map Char.toLower, rest)
      | _ => none
    else none
  | [] => none

/-- A character that ends an authority. -/
def endsAuthority (special : Bool) (c : Char) : Bool :=
  c == '/' || c == '?' || c == '#' || (special && c == '\\')

/-- The last `@` of a text splits it in two. -/
def splitLastAt? (s : List Char) : Option (List Char × List Char) :=
  if s.contains '@' then
    some ((s.reverse.dropWhile (· ≠ '@')).drop 1 |>.reverse,
      (s.reverse.takeWhile (· ≠ '@')).reverse)
  else none

/-- A user name and a password from the text before the `@`.  An empty password is none. -/
def readUser (s : List Char) : List Char × Option (List Char) :=
  let name := s.takeWhile (· ≠ ':')
  let password := (s.dropWhile (· ≠ ':')).drop 1
  (percentEncode inUserSet name,
    if password.isEmpty then none else some (percentEncode inUserSet password))

/-- The characters of a host: up to a colon outside brackets. -/
def spanHost (inside : Bool) : List Char → List Char × List Char
  | [] => ([], [])
  | c :: rest =>
    if c = ':' ∧ inside = false then ([], c :: rest)
    else
      let r := spanHost (if c = '[' then true else if c = ']' then false else inside) rest
      (c :: r.1, r.2)

/-- Reads a port from all of a text; no digits stand for no port. -/
def readPort? (ds : List Char) : Option (Option Nat) :=
  if ds.all Char.isDigit then
    let n := ofDigits ds
    if n < 0x10000 then some (if ds.isEmpty then none else some n) else none
  else none

/-- The port of a text after a host, if it is not the usual one of the scheme. -/
def portOf (scheme : List Char) (s : List Char) : Except UrlError (Option Nat) :=
  match s with
  | ':' :: ds =>
    match readPort? ds with
    | none => .error .invalidPort
    | some port => .ok (if port = defaultPort? scheme then none else port)
  | _ => .ok none

/-- Reads the host and the port. -/
def readHostPort (scheme s : List Char) : Except UrlError (Host × Option Nat) := do
  let special := isSpecial scheme
  let (hostText, rest) := spanHost false s
  if special && hostText.isEmpty then throw .emptyHost
  let host ← Host.parse special hostText
  if host = .name [] && !rest.isEmpty then throw .emptyHost
  pure (host, ← portOf scheme rest)

/-- Reads an authority; `atEnd` tells that nothing follows it. -/
def readAuthority (scheme s : List Char) (atEnd : Bool) : Except UrlError Authority :=
  match splitLastAt? s with
  | none => do
    let (host, port) ← readHostPort scheme s
    pure { host, port }
  | some (user, rest) =>
    if user.isEmpty && rest.isEmpty && !atEnd then .error .emptyHost
    else do
      let (username, password) := readUser user
      let (host, port) ← readHostPort scheme rest
      if host = .name [] && !(username.isEmpty && password.isNone) then throw .emptyHost
      pure { username, password, host, port }

/-- A path, a query and a fragment as they are written. -/
structure Tail where
  path : List Char
  query : Option (List Char)
  fragment : Option (List Char)

/-- Cuts a text at its first `#` and the part before at its first `?`. -/
def splitTail (s : List Char) : Tail :=
  let before := s.takeWhile (· ≠ '#')
  { path := before.takeWhile (· ≠ '?')
    query :=
      match before.dropWhile (· ≠ '?') with
      | _ :: q => some q
      | [] => none
    fragment :=
      match s.dropWhile (· ≠ '#') with
      | _ :: f => some f
      | [] => none }

/-- The URL of a scheme with a path, and the query and fragment of a tail. -/
def assemble (scheme : List Char) (authority : Option Authority) (path : List Char)
    (isOpaque : Bool) (t : Tail) : Url where
  scheme := scheme
  authority := authority
  path := path
  isOpaque := isOpaque
  query := t.query.map (percentEncode (inQuerySet (isSpecial scheme)))
  fragment := t.fragment.map (percentEncode inFragmentSet)

/-- The path after an authority.  Under a special scheme it is never empty. -/
def pathAfterHost (special isFile : Bool) (s : List Char) : List Char :=
  match s with
  | [] => if special then ['/'] else []
  | c :: rest =>
    if separates special c then readPath special isFile ['/'] rest
    else readPath special isFile ['/'] (c :: rest)

/-- Reads what follows the two slashes after a scheme that is not `file`. -/
def readAfterSlashes (scheme s : List Char) : Except UrlError Url := do
  let special := isSpecial scheme
  let rest := s.dropWhile (!endsAuthority special ·)
  let authority ← readAuthority scheme (s.takeWhile (!endsAuthority special ·)) rest.isEmpty
  let tail := splitTail rest
  pure (assemble scheme (some authority) (pathAfterHost special false tail.path) false tail)

/-- The authority of a local file on this host. -/
def localHost : Authority :=
  { host := .name [] }

/-- The host of a file URL; `localhost` and no host at all are the same. -/
def readFileHost (s : List Char) : Except UrlError Authority :=
  if s.isEmpty then .ok localHost
  else do
    let host ← Host.parse true s
    pure (if host = .name "localhost".toList then localHost else { host })

/-- A path that starts with a drive letter. -/
def startsWithDrive (path : List Char) : Bool :=
  isNormalDriveLetter ((path.drop 1).takeWhile (· ≠ '/'))

/-- Reads what follows the scheme of a local file. -/
def readFile (scheme s : List Char) : Except UrlError Url :=
  match s with
  | c :: d :: rest =>
    if separates true c && separates true d then do
      let hostText := rest.takeWhile (!endsAuthority true ·)
      if isDriveLetter hostText then
        let tail := splitTail rest
        pure (assemble scheme (some localHost) (readPath true true ['/'] tail.path) false tail)
      else
        let authority ← readFileHost hostText
        let tail := splitTail (rest.dropWhile (!endsAuthority true ·))
        let path := oneSlash (pathAfterHost true true tail.path)
        let authority := if startsWithDrive path then localHost else authority
        pure (assemble scheme (some authority) path false tail)
    else
      let tail := splitTail s
      let path := oneSlash (pathAfterHost true true tail.path)
      pure (assemble scheme (some localHost) path false tail)
  | s =>
    let tail := splitTail s
    .ok (assemble scheme (some localHost) (oneSlash (pathAfterHost true true tail.path)) false tail)

/-- Reads what follows a scheme that is not special. -/
def readPlain (scheme s : List Char) : Except UrlError Url :=
  match s with
  | '/' :: '/' :: rest => readAfterSlashes scheme rest
  | '/' :: rest =>
    let tail := splitTail rest
    .ok (assemble scheme none (readPath false false ['/'] tail.path) false tail)
  | s =>
    let tail := splitTail s
    .ok (assemble scheme none (percentEncode isControl tail.path) true tail)

/-- Reads an absolute URL. -/
def parse (s : List Char) : Except UrlError Url :=
  match readScheme? (dropLayout (stripControls s)) with
  | none => .error .relative
  | some (scheme, rest) =>
    if isFile scheme then readFile scheme rest
    else if isSpecial scheme then readAfterSlashes scheme (rest.dropWhile (separates true))
    else readPlain scheme rest

end IngestConsole.Url
