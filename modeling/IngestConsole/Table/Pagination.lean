import IngestConsole.Json.Record
import IngestConsole.Numeral.Decimal

/-!
# Pages

A table is shown in pages of one of four sizes.  Pages are counted from one.
-/

set_option autoImplicit false

namespace IngestConsole.Table

open Json

/-- How many tasks a page shows. -/
inductive PageSize
  | ten
  | twenty
  | fifty
  | hundred
  deriving DecidableEq, Repr

namespace PageSize

/-- The size as a number. -/
def toNat : PageSize → Nat
  | ten => 10
  | twenty => 20
  | fifty => 50
  | hundred => 100

/-- Every page size. -/
def all : List PageSize :=
  [ten, twenty, fifty, hundred]

/-- A number that is no page size. -/
structure Invalid where
  size : Nat
  deriving DecidableEq, Repr

/-- The wording of an invalid page size. -/
def Invalid.message (e : Invalid) : String :=
  "invalid page size: " ++ Numeral.natText e.size ++ " (expected: 10|20|50|100)"

/-- The page size with a number. -/
def ofSize (n : Nat) : Except Invalid PageSize :=
  match all.find? (·.toNat = n) with
  | some size => .ok size
  | none => .error ⟨n⟩

end PageSize

/-- How many pages of a size hold `count` tasks. -/
def pageCount (count : Nat) (size : PageSize) : Nat :=
  (count + size.toNat - 1) / size.toNat

/-- The page size and the page that are selected. -/
structure Pagination where
  pageSize : PageSize := .twenty
  currentPage : Nat := 1
  deriving DecidableEq, Repr

namespace Pagination

/-- The names of the fields on the wire. -/
def fieldNames : List String :=
  ["pageSize", "currentPage"]

/-- Reads a page size. -/
def decodeSize? (d : Document) : Option PageSize := do
  let n ← d.uint64?
  (PageSize.ofSize n.toNat).toOption

/-- Reads a pagination. -/
def decode? (d : Document) : Option Pagination := do
  let fs ← d.fields? fieldNames
  let pageSize ← fs.get "pageSize" decodeSize? .twenty
  let currentPage ← fs.get "currentPage" (·.uint64?.map UInt64.toNat) 1
  pure { pageSize, currentPage }

/-- The members of a written pagination.  Page numbers beyond 64 bits are written as the largest of
64 bits. -/
def members (p : Pagination) : List (String × Value) :=
  [("pageSize", .uint64 (.ofNat p.pageSize.toNat)),
   ("currentPage", .uint64 (.ofNat (min p.currentPage 0xffffffffffffffff)))]

/-- Writes a pagination. -/
def encode (p : Pagination) : Value :=
  .ofMembers p.members

end Pagination

end IngestConsole.Table
