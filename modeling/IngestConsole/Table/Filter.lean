import IngestConsole.Text.Case
import IngestConsole.Wire.Task

/-!
# Filters

A filter keeps the tasks whose name contains a text, in any letter case, and whose kind and state
are the wanted ones.  A patch changes some parts of a filter and leaves the others.
-/

set_option autoImplicit false

namespace IngestConsole.Table

open Json Text Wire

/-- What the shown tasks have in common. -/
structure Filter where
  /-- Part of the name, in any letter case. -/
  name : String := ""
  kind : Option TaskKind := none
  status : Option TaskStatus := none
  deriving DecidableEq

/-- A change of some parts of a filter.  An empty kind or state removes that condition. -/
structure FilterPatch where
  name : Option String := none
  kind : Option String := none
  status : Option String := none
  deriving DecidableEq, Repr

/-- Whether `part` occurs in `s`. -/
def occursIn (part : List Char) : List Char → Bool
  | [] => part.isEmpty
  | c :: rest => part.isPrefixOf (c :: rest) || occursIn part rest

/-- Whether `part` occurs in `s` in any letter case. -/
def occursAnyCase (part s : String) : Bool :=
  occursIn (lower part.toList) (lower s.toList)

namespace Filter

/-- Nothing is filtered out. -/
def isEmpty (f : Filter) : Bool :=
  f.name.isEmpty && f.kind.isNone && f.status.isNone

/-- The condition on the name. -/
def matchesName (f : Filter) (t : Task) : Bool :=
  f.name.isEmpty || occursAnyCase f.name t.name

/-- The condition on the kind. -/
def matchesKind (f : Filter) (t : Task) : Bool :=
  f.kind.isNone || t.kind == f.kind

/-- The condition on the state. -/
def matchesStatus (f : Filter) (t : Task) : Bool :=
  f.status.isNone || t.status == f.status

/-- A task meets every condition. -/
def admits (f : Filter) (t : Task) : Bool :=
  f.matchesName t && f.matchesKind t && f.matchesStatus t

/-- The filter after a patch. -/
def merge (f : Filter) (p : FilterPatch) : Filter where
  name := p.name.getD f.name
  kind := match p.kind with
    | some s => if s.isEmpty then none else some (.ofText s)
    | none => f.kind
  status := match p.status with
    | some s => if s.isEmpty then none else some (.ofText s)
    | none => f.status

/-- The names of the fields on the wire. -/
def fieldNames : List String :=
  ["name", "type", "status"]

/-- Reads a filter. -/
def decode? (d : Document) : Option Filter := do
  let fs ← d.fields? fieldNames
  let name ← fs.get "name" Document.text? ""
  let kind ← fs.get "type" (Document.optional? Document.text?) none
  let status ← fs.get "status" (Document.optional? Document.text?) none
  pure { name, kind := kind.map .ofText, status := status.map .ofText }

/-- The members of a written filter; absent conditions are left out. -/
def members (f : Filter) : List (String × Value) :=
  [("name", .text f.name)]
  ++ optionalMember "type" (fun k => .text k.text) f.kind
  ++ optionalMember "status" (fun s => .text s.text) f.status

/-- Writes a filter. -/
def encode (f : Filter) : Value :=
  .ofMembers f.members

end Filter

namespace FilterPatch

/-- Reads a patch. -/
def decode? (d : Document) : Option FilterPatch := do
  let fs ← d.fields? Filter.fieldNames
  let name ← fs.get "name" (Document.optional? Document.text?) none
  let kind ← fs.get "type" (Document.optional? Document.text?) none
  let status ← fs.get "status" (Document.optional? Document.text?) none
  pure { name, kind, status }

end FilterPatch

end IngestConsole.Table
