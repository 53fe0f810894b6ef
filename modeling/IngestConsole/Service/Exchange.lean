import IngestConsole.Service.Request
import IngestConsole.Service.Response

/-!
# Exchanges

Requests and responses as they travel: the first version of the transfer protocol, in which the
body of a response reaches up to the end of the connection.
-/

set_option autoImplicit false

namespace IngestConsole.Service

open Numeral Text

/-- The end of a line of a request or a response. -/
def lineEnd : String := "\r\n"

/-- A request to a host as it is sent. -/
def Request.bytes (r : Request) (host : String) : List UInt8 :=
  let lines :=
    [r.method.name ++ " " ++ r.target ++ " HTTP/1.0", "Host: " ++ host, "Accept: */*",
     "Content-Length: 0", "", ""]
  utf8 (lineEnd.intercalate lines).toList

/-- What stands behind the first empty line. -/
def bodyOf : List UInt8 → List UInt8
  | 13 :: 10 :: 13 :: 10 :: body => body
  | _ :: rest => bodyOf rest
  | [] => []

/-- The number that stands behind the first space of a response. -/
def statusOf? (bytes : List UInt8) : Option Nat :=
  let number := ((bytes.dropWhile (· ≠ 32)).drop 1).takeWhile (· ≠ 32)
  let digits := decodeUtf8 number
  if digits.length = 3 ∧ digits.all Char.isDigit then some (ofDigits digits) else none

/-- What stands before the first empty line. -/
def headOf : List UInt8 → List UInt8
  | 13 :: 10 :: 13 :: 10 :: _ => []
  | b :: rest => b :: headOf rest
  | [] => []

/-- The value of a header, whose name is given in lower case. -/
def headerOf? (name : String) (bytes : List UInt8) : Option String :=
  let lines := (String.ofList (decodeUtf8 (headOf bytes))).splitOn lineEnd
  lines.findSome? fun line =>
    let (key, value) := line.toList.span (· ≠ ':')
    if (key.map Char.toLower) = name.toList then some (String.ofList (value.drop 1)) else none

/-- The charset that the head of a response names, if it is one of Unicode. -/
def charsetOf? (bytes : List UInt8) : Option Charset := do
  let value ← headerOf? "content-type" bytes
  let parameters := (value.splitOn ";").map fun p => (p.toList.filter (· ≠ '"')).map Char.toLower
  let label ← parameters.findSome? fun p =>
    let (key, label) := (p.filter (· ≠ ' ')).span (· ≠ '=')
    if key = "charset".toList then some (String.ofList (label.drop 1)) else none
  Charset.ofLabel? label

/-- The response that was received; bytes without a status are none. -/
def Response.ofBytes (bytes : List UInt8) : Response :=
  match statusOf? bytes with
  | some status => .answered status (bodyOf bytes) ((charsetOf? bytes).getD .utf8)
  | none => .dropped { text := "the response has no status" }

instance : Inhabited Response :=
  ⟨.dropped { text := "no response" }⟩

end IngestConsole.Service
