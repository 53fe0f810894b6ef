import IngestConsole.Service.Client

/-!
# Backends

A backend answers calls.  What it answers may depend on the calls that came before, and an answer
may take some time to arrive.
-/

set_option autoImplicit false

namespace IngestConsole.Service

/-- Something that answers calls; `β` is what it remembers. -/
structure Backend (β : Type) where
  /-- How a call ends, and what is remembered of it. -/
  call : (e : Endpoint) → β → e.Result × β
  /-- How many milliseconds the answer to a call takes when it is made now. -/
  delay : Endpoint → β → Nat := fun _ _ => 0

/-- The service behind a client when each request gets the response that `respond` gives; it
remembers the requests, the latest first. -/
def Client.backend (c : Client) (respond : Request → Response) : Backend (List Request) where
  call e sent :=
    (c.call respond e,
      match e.request c.base with
      | .ok r => r :: sent
      | .error _ => sent)

end IngestConsole.Service
