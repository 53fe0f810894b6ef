import IngestConsole.Json.Document

/-!
# Configuration documents

The effective configuration of the service: a free-form JSON object.
-/

set_option autoImplicit false

namespace IngestConsole.Wire

open Json

/-- The members of a configuration, sorted by key. -/
abbrev ConfigDocument := List (String × Value)

/-- A configuration is any object. -/
def ConfigDocument.ofValue? : Value → Option ConfigDocument
  | .object members => some members
  | _ => none

end IngestConsole.Wire
