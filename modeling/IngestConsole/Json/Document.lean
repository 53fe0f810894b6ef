import IngestConsole.Json.Token
import IngestConsole.Json.Value

/-!
# JSON documents

A document is JSON text after parsing and before its literals are read: members keep their order
and may repeat, and a literal may denote nothing.  A reader of records takes from a document only
the members it knows; a reader of free-form values takes all of it and limits its depth.
-/

set_option autoImplicit false

namespace IngestConsole.Json

/-- A parsed JSON text.  `none` in the place of a literal means that it denotes nothing. -/
inductive Document
  | null
  | bool (b : Bool)
  | number (n : Option Number)
  | string (s : Option String)
  | array (items : List Document)
  | object (members : List (Option String × Document))
  deriving Repr, Inhabited

/-- The text of a string literal. -/
def literalText? (pieces : List StringPiece) : Option String :=
  (stringValue? pieces).map String.ofList

mutual

/-- Reads the document at the start of the tokens. -/
def readDocument : Nat → List Token → Option (Document × List Token)
  | 0, _ => none
  | fuel + 1, ts =>
    match ts with
    | .null :: rest => some (.null, rest)
    | .bool b :: rest => some (.bool b, rest)
    | .number l :: rest => some (.number l.value?, rest)
    | .string p :: rest => some (.string (literalText? p), rest)
    | .openArray :: .closeArray :: rest => some (.array [], rest)
    | .openArray :: rest => (readItems fuel rest).map fun r => (.array r.1, r.2)
    | .openObject :: .closeObject :: rest => some (.object [], rest)
    | .openObject :: rest => (readMembers fuel rest).map fun r => (.object r.1, r.2)
    | _ => none

/-- Reads the items of an array up to its end. -/
def readItems : Nat → List Token → Option (List Document × List Token)
  | 0, _ => none
  | fuel + 1, ts =>
    match readDocument fuel ts with
    | some (d, .closeArray :: rest) => some ([d], rest)
    | some (d, .comma :: rest) => (readItems fuel rest).map fun r => (d :: r.1, r.2)
    | _ => none

/-- Reads the members of an object up to its end. -/
def readMembers : Nat → List Token → Option (List (Option String × Document) × List Token)
  | 0, _ => none
  | fuel + 1, ts =>
    match ts with
    | .string p :: .colon :: rest =>
      match readDocument fuel rest with
      | some (d, .closeObject :: rest) => some ([(literalText? p, d)], rest)
      | some (d, .comma :: rest) =>
        (readMembers fuel rest).map fun r => ((literalText? p, d) :: r.1, r.2)
      | _ => none
    | _ => none

end

/-- The document of a text.  Every nested step takes a token, so twice their number bounds the
nesting of steps. -/
def Document.parse? (s : List Char) : Option Document := do
  let ts ← scan s
  match readDocument (2 * ts.length + 2) ts with
  | some (d, []) => some d
  | _ => none

mutual

/-- The value that a document denotes, nested at most `depth` arrays and objects deep.  Of two
members with one key the later counts. -/
def Document.value? (depth : Nat) : Document → Option Value
  | .null => some .null
  | .bool b => some (.bool b)
  | .number n => n.map .number
  | .string s => s.map .string
  | .array items =>
    match depth with
    | 0 => none
    | depth + 1 => (itemValues? depth items).map .array
  | .object members =>
    match depth with
    | 0 => none
    | depth + 1 => (memberValues? depth members).map Value.ofMembers

/-- The values of the items of an array. -/
def itemValues? (depth : Nat) : List Document → Option (List Value)
  | [] => some []
  | d :: rest => do
    let v ← d.value? depth
    let vs ← itemValues? depth rest
    pure (v :: vs)

/-- The values of the members of an object. -/
def memberValues? (depth : Nat) : List (Option String × Document) → Option (List (String × Value))
  | [] => some []
  | (key, d) :: rest => do
    let key ← key
    let v ← d.value? depth
    let vs ← memberValues? depth rest
    pure ((key, v) :: vs)

end

mutual

/-- The document that writes a value. -/
def Value.document : Value → Document
  | .null => .null
  | .bool b => .bool b
  | .number n => .number (some n)
  | .string s => .string (some s)
  | .array items => .array (itemDocuments items)
  | .object members => .object (memberDocuments members)

/-- The documents of the items of an array. -/
def itemDocuments : List Value → List Document
  | [] => []
  | v :: rest => v.document :: itemDocuments rest

/-- The documents of the members of an object. -/
def memberDocuments : List (String × Value) → List (Option String × Document)
  | [] => []
  | (key, v) :: rest => (some key, v.document) :: memberDocuments rest

end

mutual

/-- How deep the arrays and objects of a value nest. -/
def Value.nesting : Value → Nat
  | .array items => itemNesting items + 1
  | .object members => memberNesting members + 1
  | _ => 0

/-- How deep the items of an array nest. -/
def itemNesting : List Value → Nat
  | [] => 0
  | v :: rest => max v.nesting (itemNesting rest)

/-- How deep the members of an object nest. -/
def memberNesting : List (String × Value) → Nat
  | [] => 0
  | (_, v) :: rest => max v.nesting (memberNesting rest)

end

/-- How deep the arrays and objects of a free-form text may nest. -/
def depthLimit : Nat := 127

/-- The free-form value of a text. -/
def Value.parse? (s : List Char) : Option Value :=
  (Document.parse? s).bind (·.value? depthLimit)

end IngestConsole.Json
