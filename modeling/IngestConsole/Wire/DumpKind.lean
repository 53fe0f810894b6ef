import IngestConsole.Text.Blank

/-!
# Kinds of diagnostic dumps

The service exposes three dumps as plain text beside its JSON calls.
-/

set_option autoImplicit false

namespace IngestConsole.Wire

/-- A diagnostic dump. -/
inductive DumpKind
  | heap
  | goroutine
  | metrics
  deriving DecidableEq, Repr

namespace DumpKind

/-- The name of a dump. -/
def name : DumpKind → String
  | heap => "heap"
  | goroutine => "goroutine"
  | metrics => "metrics"

/-- Every dump. -/
def all : List DumpKind :=
  [heap, goroutine, metrics]

/-- The segments of the path of a dump. -/
def segments : DumpKind → List String
  | heap => ["debug", "pprof", "heap"]
  | goroutine => ["debug", "pprof", "goroutine"]
  | metrics => ["metrics"]

/-- Whether the dump is asked for in its readable form. -/
def hasDebugQuery : DumpKind → Bool
  | metrics => false
  | _ => true

/-- The path and query of a dump. -/
def target (k : DumpKind) : String :=
  String.join (k.segments.map ("/" ++ ·)) ++ (if k.hasDebugQuery then "?debug=1" else "")

/-- A text that names no dump; it is kept in lower case and without blanks at its ends. -/
structure InvalidName where
  name : String
  deriving DecidableEq, Repr

/-- The wording of an invalid name. -/
def InvalidName.message (e : InvalidName) : String :=
  "invalid debug kind: '" ++ e.name ++ "' (valid: heap, goroutine, metrics)"

/-- The dump with a name; case and blanks around it do not matter. -/
def ofName (s : String) : Except InvalidName DumpKind :=
  let name := String.ofList ((Text.trim s.toList).map Char.toLower)
  if name = "heap" then .ok heap
  else if name = "goroutine" ∨ name = "goroutines" then .ok goroutine
  else if name = "metrics" then .ok metrics
  else .error ⟨name⟩

end DumpKind

end IngestConsole.Wire
