import IngestConsole.Numeral.Decimal
import IngestConsole.Service.Endpoint
import IngestConsole.Url.Basic

/-!
# Requests

The request that stands for a call.  The path of a call is appended to the path of the base URL; the
query of the base URL is left out and its fragment is never sent.
-/

set_option autoImplicit false

namespace IngestConsole.Service

open Numeral Wire

/-- A request method. -/
inductive Method
  | get
  | post
  deriving DecidableEq, Repr

/-- The method as it is sent. -/
def Method.name : Method → String
  | get => "GET"
  | post => "POST"

/-- What is sent to the service: a method, and a path with its query. -/
structure Request where
  method : Method
  target : String
  deriving DecidableEq, Repr

/-- A request in one line. -/
def Request.line (r : Request) : String :=
  r.method.name ++ " " ++ r.target

namespace Endpoint

/-- The method of a call: only what changes the service is posted. -/
def method : Endpoint → Method
  | reloadTasks => .post
  | reloadConfig => .post
  | _ => .get

/-- The segments that the path of a call ends in. -/
def segments : Endpoint → List String
  | processInfo => ["api", "v1", "metrics", "procinfo"]
  | tasks => ["api", "v1", "tasks"]
  | taskStatus task => ["api", "v1", "tasks", task, "status"]
  | config => ["api", "v1", "config"]
  | launchOptions => ["api", "v1", "cmdline"]
  | reloadTasks => ["api", "v1", "tasks", "refresh"]
  | reloadConfig => ["api", "v1", "config", "refresh"]
  | dump kind => kind.segments
  | log _ _ => ["api", "v1", "log"]
  | taskConfig task => ["api", "v1", "task", task]

/-- The query of a call. -/
def query : Endpoint → Option String
  | dump kind => if kind.hasDebugQuery then some "debug=1" else none
  | log start errorsOnly =>
    some ("from=" ++ natText start.toNat ++ if errorsOnly then "&error=true" else "")
  | _ => none

/-- The path of a call below a base URL. -/
def path (base : Url) (e : Endpoint) : List Char :=
  Url.appendSegments (Url.isSpecial base.scheme) (Url.isFile base.scheme)
    (Url.dropEmptySegment base.path) (e.segments.map String.toList)

/-- The URL of a call below a base URL; a base URL without segments has none. -/
def url (base : Url) (e : Endpoint) : Except CallError Url :=
  if base.isOpaque then .error (.invalidUrl (String.ofList base.text))
  else .ok { base with path := e.path base, query := e.query.map String.toList }

/-- The request of a call below a base URL. -/
def request (base : Url) (e : Endpoint) : Except CallError Request :=
  (e.url base).map fun u => { method := e.method, target := String.ofList u.target }

end Endpoint

end IngestConsole.Service
