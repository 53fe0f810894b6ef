import IngestConsole.Wire.DumpKind
import IngestConsole.Wire.Envelope

/-!
# Failed calls

Why a call fails, and how that is worded.  An error keeps what the message is made of: the body that
was no envelope, the entity that was not of the expected shape, what was said of a lost connection.
What the libraries below the client say of such a thing is a parameter, the `Wording`.
-/

set_option autoImplicit false

namespace IngestConsole.Service

open Json Wire

/-- What a library says of an error, and what it says of its causes, each of the one before it. -/
structure Report where
  text : String
  causes : List String := []
  deriving DecidableEq, Repr

/-- Why a call gets nothing that could be read. -/
inductive TransportFault
  /-- There was no response, or its body broke off. -/
  | lost (report : Report)
  /-- The response to the request for a dump has the status of an error. -/
  | errorStatus (kind : DumpKind) (status : Nat)
  deriving DecidableEq, Repr

/-- Why the text of a body is no answer. -/
inductive DecodeFault
  /-- The text is no envelope. -/
  | noEnvelope (body : String)
  /-- The entity of the envelope is no value of what was asked for. -/
  | mismatch (entity : Value)
  deriving DecidableEq, Repr

/-- Why a call fails. -/
inductive CallError
  /-- The call has no URL; the text says why. -/
  | invalidUrl (reason : String)
  /-- The service sent no response, or an error status in place of a plain text. -/
  | transport (fault : TransportFault)
  /-- The response is no answer to the call. -/
  | undecodable (subject : String) (fault : DecodeFault)
  /-- The envelope of the response does not hold an answer. -/
  | envelope (e : EnvelopeError)
  deriving DecidableEq, Repr

/-- What the libraries below the client say, at one service. -/
structure Wording where
  /-- Of a response with the status of an error, in place of a dump. -/
  errorStatus : DumpKind → Nat → Report
  /-- Of a text that is no envelope. -/
  noEnvelope : String → String
  /-- Of an entity that is no value of what a call is about. -/
  mismatch : String → Value → String

/-- What is said of a transport that failed. -/
def TransportFault.report (w : Wording) : TransportFault → Report
  | lost report => report
  | errorStatus kind status => w.errorStatus kind status

/-- The reason that is given for a text that is no answer; a text that is no envelope is given with
it. -/
def DecodeFault.reason (w : Wording) (subject : String) : DecodeFault → String
  | noEnvelope body => w.noEnvelope body ++ ", body: " ++ body
  | mismatch entity => w.mismatch subject entity

namespace CallError

/-- The wording of a failed call. -/
def message (w : Wording) : CallError → String
  | invalidUrl reason => "invalid url: " ++ reason
  | transport fault => "http request failed: " ++ (fault.report w).text
  | undecodable subject fault => "failed to decode " ++ subject ++ ": " ++ fault.reason w subject
  | envelope e => e.message

/-- The wording of what caused a failed call, each cause after what it caused. -/
def causes (w : Wording) : CallError → List String
  | transport fault => (fault.report w).text :: (fault.report w).causes
  | _ => []

end CallError

end IngestConsole.Service
