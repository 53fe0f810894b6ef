import IngestConsole.Numeral.Binary64
import IngestConsole.Numeral.Decimal

/-!
# Numbers with fixed decimal places

A quotient is rounded once, from its exact value, to the wanted number of places; a half goes to
the even neighbour.
-/

set_option autoImplicit false

namespace IngestConsole.Numeral

/-- The digits of `n` units of the last of `places` places, with a point before the places. -/
def withPoint (places n : Nat) : List Char :=
  if places = 0 then digits n
  else digits (n / Nat.pow 10 places) ++ '.' :: padded places (n % Nat.pow 10 places)

/-- `num / den` with a number of decimal places. -/
def fixed (places num den : Nat) : List Char :=
  withPoint places (roundDiv (num * Nat.pow 10 places) den)

/-- A floating-point number with a number of decimal places.  A negative number keeps its sign
when it rounds to zero. -/
def Binary64.fixed (places : Nat) : Binary64 → List Char
  | .finite x =>
    (if x.negative then ['-'] else []) ++ Numeral.fixed places x.num x.den
  | .infinite negative => (if negative then ['-'] else []) ++ ['i', 'n', 'f']
  | .nan => ['N', 'a', 'N']

/-- A decimal without the zeros at the end of its places, and without a point that is left at
its end. -/
def trimPlaces (s : List Char) : List Char :=
  if s.contains '.' then
    let kept := s.reverse.dropWhile (· == '0')
    (match kept with
      | '.' :: rest => rest
      | _ => kept).reverse
  else s

end IngestConsole.Numeral
