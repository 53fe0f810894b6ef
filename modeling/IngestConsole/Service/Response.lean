import IngestConsole.Service.Endpoint
import IngestConsole.Text.Charset

/-!
# Responses

A response is read by its call.  What counts is the text that the body is read as.  Envelope calls
ignore the status: a text that is no envelope, a refused call, a missing entity and an entity of
another shape are told apart in this order.  A dump is the text itself, unless the status is an
error.
-/

set_option autoImplicit false

namespace IngestConsole.Service

open Json Text Wire

/-- What comes back for a request. -/
inductive Response
  /-- The connection was closed without a response, or within its body. -/
  | dropped (report : Report)
  /-- A response in the charset that its head names; that is UTF-8 if it names none. -/
  | answered (status : Nat) (body : List UInt8) (charset : Charset := .utf8)
  deriving DecidableEq, Repr

/-- The text that the body of a response is read as. -/
def Response.text? : Response → Option (List Char)
  | .dropped _ => none
  | .answered _ body charset => some (charset.decode body)

/-- A status that tells of an error, of the client or of the server. -/
def isErrorStatus (status : Nat) : Bool :=
  400 ≤ status && status < 600

/-- The error for a text that is no envelope. -/
def noEnvelope {α : Type} (subject : String) (body : List Char) : Except CallError α :=
  .error (.undecodable subject (.noEnvelope (String.ofList body)))

/-- Reads the entity of an envelope. -/
def readEntity {α : Type} (subject : String) (ofValue? : Value → Option α) (body : List Char) :
    Except CallError α :=
  match Envelope.parse? body with
  | none => noEnvelope subject body
  | some envelope =>
    match envelope.intoEntity with
    | .error e => .error (.envelope e)
    | .ok entity =>
      match ofValue? entity with
      | none => .error (.undecodable subject (.mismatch entity))
      | some answer => .ok answer

/-- Reads the code of an envelope. -/
def readAck (subject : String) (body : List Char) : Except CallError Unit :=
  match Envelope.parse? body with
  | none => noEnvelope subject body
  | some envelope => envelope.intoAck.mapError .envelope

namespace Endpoint

/-- The answer that a text holds for a call. -/
def readText (status : Nat) (body : List Char) : (e : Endpoint) → e.Result
  | processInfo => readEntity processInfo.subject (ProcessInfo.decode? ·.document) body
  | tasks => readEntity tasks.subject (TaskList.decode? ·.document) body
  | taskStatus task =>
    readEntity (taskStatus task).subject (StatusSnapshot.decode? ·.document) body
  | config => readEntity config.subject ConfigDocument.ofValue? body
  | launchOptions => readEntity launchOptions.subject (LaunchOptions.decode? ·.document) body
  | reloadTasks => readAck reloadTasks.subject body
  | reloadConfig => readAck reloadConfig.subject body
  | dump kind =>
    if isErrorStatus status then .error (.transport (.errorStatus kind status))
    else .ok (String.ofList body)
  | log start errorsOnly =>
    readEntity (log start errorsOnly).subject (LogPage.decode? ·.document) body
  | taskConfig task => readEntity (taskConfig task).subject some body

/-- The answer that a response holds for a call. -/
def read (e : Endpoint) : Response → e.Result
  | .dropped report => .error (.transport (.lost report))
  | .answered status body charset => e.readText status (charset.decode body)

end Endpoint

end IngestConsole.Service
