import IngestConsole.Json.Record

/-!
# Envelopes

The service wraps its JSON answers in an envelope: a return code, a message and an entity.  One
code means success.
-/

set_option autoImplicit false

namespace IngestConsole.Wire

open Json

/-- The return code of a successful call. -/
def successCode : String := "0000"

/-- An answer of the service around a free-form entity. -/
structure Envelope where
  code : String
  message : String := ""
  entity : Option Value := none

/-- Why an envelope does not give what was asked for. -/
inductive EnvelopeError
  | rejected (code message : String)
  | missingEntity
  deriving DecidableEq, Repr

/-- The wording of an envelope error. -/
def EnvelopeError.message : EnvelopeError → String
  | .rejected code message => "backend rejected request: code=" ++ code ++ " msg=" ++ message
  | .missingEntity => "response carried no entity"

namespace Envelope

/-- A successful answer. -/
def success (entity : Value) : Envelope :=
  { code := successCode, message := "success", entity := some entity }

/-- A refusal. -/
def failure (code message : String) : Envelope :=
  { code, message }

/-- The names of the fields on the wire. -/
def fieldNames : List String :=
  ["retCode", "retMsg", "entity"]

/-- Reads an envelope whose free-form entity nests at most `depth` deep. -/
def decodeWithin? (depth : Nat) (d : Document) : Option Envelope := do
  let fs ← d.fields? fieldNames
  let code ← fs.require "retCode" Document.text?
  let message ← fs.get "retMsg" Document.text? ""
  let entity ← fs.get "entity" (Document.optional? (·.value? depth)) none
  pure { code, message, entity }

/-- Reads an envelope of a text.  The entity lies one level below the envelope. -/
def decode? (d : Document) : Option Envelope :=
  decodeWithin? (depthLimit - 1) d

/-- Reads an envelope from a free-form value, which may nest as deep as it likes. -/
def ofValue? (v : Value) : Option Envelope :=
  decodeWithin? v.nesting v.document

/-- Reads an envelope from text. -/
def parse? (s : List Char) : Option Envelope :=
  (Document.parse? s).bind decode?

/-- The members of a written envelope; an absent entity is written as `null`. -/
def members (e : Envelope) : List (String × Value) :=
  [("retCode", .text e.code), ("retMsg", .text e.message), ("entity", e.entity.getD .null)]

/-- Writes an envelope. -/
def encode (e : Envelope) : Value :=
  .ofMembers e.members

/-- The call succeeded. -/
def isSuccess (e : Envelope) : Bool :=
  e.code == successCode

/-- The entity of a successful answer. -/
def intoEntity (e : Envelope) : Except EnvelopeError Value :=
  if e.isSuccess then
    match e.entity with
    | some v => .ok v
    | none => .error .missingEntity
  else .error (.rejected e.code e.message)

/-- The return code alone, for calls that expect no entity. -/
def intoAck (e : Envelope) : Except EnvelopeError Unit :=
  if e.isSuccess then .ok () else .error (.rejected e.code e.message)

end Envelope

end IngestConsole.Wire
