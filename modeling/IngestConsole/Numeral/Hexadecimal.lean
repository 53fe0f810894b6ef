/-!
# Hexadecimal digits

The values of hexadecimal digits of either case.
-/

set_option autoImplicit false

namespace IngestConsole.Numeral

/-- The value of a hexadecimal digit. -/
def hexValue? (c : Char) : Option Nat :=
  if c.isDigit then some (c.toNat - '0'.toNat)
  else if 'a' ≤ c ∧ c ≤ 'f' then some (c.toNat - 'a'.toNat + 10)
  else if 'A' ≤ c ∧ c ≤ 'F' then some (c.toNat - 'A'.toNat + 10)
  else none

end IngestConsole.Numeral
