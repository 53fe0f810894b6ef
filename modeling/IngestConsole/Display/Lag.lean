import IngestConsole.Numeral.Fixed

/-!
# Consumer lag

A lag falls into one of three levels, and is shown in full or abbreviated to thousands or
millions.
-/

set_option autoImplicit false

namespace IngestConsole.Display

open Numeral

/-- The severity of a consumer lag. -/
inductive LagLevel
  | normal
  | warning
  | critical
  deriving DecidableEq, Repr

/-- The name of a level. -/
def LagLevel.name : LagLevel → String
  | normal => "normal"
  | warning => "warning"
  | critical => "critical"

/-- A lag above ten thousand is critical, one above a thousand a warning. -/
def lagLevel (lag : Int64) : LagLevel :=
  if lag > 10000 then .critical
  else if lag > 1000 then .warning
  else .normal

/-- An integer with one decimal place after division by a unit, where both steps round to
floating-point numbers. -/
def inUnits (n : Int) (unit : Nat) : List Char :=
  let quotient := (Finite64.ofInt? n).bind fun x => (Finite64.ofInt? unit).bind x.div?
  (Binary64.ofFinite? (n < 0) quotient).fixed 1

/-- A lag abbreviated from a thousand up; a dash if there is none. -/
def lagShort : Option Int64 → String
  | none => "-"
  | some lag =>
    if lag ≥ 1000000 then String.ofList (inUnits lag.toInt 1000000) ++ "M"
    else if lag ≥ 1000 then String.ofList (inUnits lag.toInt 1000) ++ "K"
    else intText lag.toInt

end IngestConsole.Display
