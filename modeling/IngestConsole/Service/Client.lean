import IngestConsole.Service.Request
import IngestConsole.Service.Response
import IngestConsole.Url.Parser

/-!
# Clients

A client sends calls to one service and reads the responses.
-/

set_option autoImplicit false

namespace IngestConsole.Service

/-- How to reach a service. -/
structure Client where
  base : Url
  /-- How long to wait for a response, in milliseconds. -/
  timeout : UInt64
  deriving DecidableEq, Repr

namespace Client

/-- The client of the service at an address, which must be a URL with segments. -/
def ofAddress (address : String) (timeout : UInt64) : Except CallError Client :=
  match Url.parse address.toList with
  | .error e => .error (.invalidUrl (address ++ ": " ++ e.message))
  | .ok base =>
    if base.isOpaque then .error (.invalidUrl address) else .ok { base, timeout }

/-- The address of the service in its normal form. -/
def address (c : Client) : String :=
  String.ofList c.base.text

/-- How a call ends when each request gets the response that `respond` gives. -/
def call (c : Client) (respond : Request → Response) (e : Endpoint) : e.Result :=
  match e.request c.base with
  | .error f => .error f
  | .ok r => e.read (respond r)

end Client

end IngestConsole.Service
