/-
Writing numbers.

A finite number is written with the fewest digits that read back as the same
number, and among those the nearest to its exact value; halfway between two of
them, the larger.  Powers of ten are written out: there is no exponent, and a whole
number has no point.

The digits are found on decimal grids.  The multiples of 10^e nearest to a value on
either side are its two neighbours on the grid of 10^e; the coarsest grid on which
one of them reads back gives the fewest digits.
-/
import LineScript.Number.Numeral

namespace LineScript

namespace Magnitude

/-- The quotient of a magnitude by `10 ^ e`, as numerator and denominator. -/
def ratioTo (m : Magnitude) : Int → Nat × Nat
  | .ofNat e => (m.units, unitsPerOne * Nat.pow 10 e)
  | .negSucc e => (m.units * Nat.pow 10 (e + 1), unitsPerOne)

/-- The multiple of `10 ^ e` next to a magnitude that reads back as the magnitude,
if there is one; of two, the nearer, and of two equally near ones the larger. -/
def onGrid? (m : Magnitude) (e : Int) : Option Nat :=
  let (num, den) := m.ratioTo e
  let below := num / den
  let above := below + 1
  if ofDecimal below e = m then
    if ofDecimal above e = m ∧ (below + above) * den ≤ 2 * num then some above else some below
  else if ofDecimal above e = m then some above
  else none

/-- The number of digits before the point of a magnitude written out in full. -/
def wholePlaces (m : Magnitude) : Nat :=
  (Nat.toDigits 10 (m.units / unitsPerOne)).length

/-- The digits to write for a finite magnitude, and the power of ten they count.
The grids are tried from the coarsest that can matter to the finest that is needed
for the least magnitude; should none of them do, the exact decimal value is taken. -/
def shortest (m : Magnitude) : Nat × Int :=
  ((List.range (m.wholePlaces + 325)).findSome? fun (i : Nat) =>
      let e := (m.wholePlaces : Int) - i
      (m.onGrid? e).map fun digits => (digits, e)).getD
    (m.units * Nat.pow 5 1074, -1074)

end Magnitude

/-- Write `digits * 10 ^ exponent` without an exponent. -/
def positional (digits : Nat) : Int → Text
  | .ofNat e => Nat.toDigits 10 digits ++ List.replicate e '0'
  | .negSucc e =>
    let figures := Nat.toDigits 10 digits
    -- one figure at least stands before the point
    let padded := List.replicate (e + 2 - figures.length) '0' ++ figures
    let whole := padded.length - (e + 1)
    padded.take whole ++ '.' :: padded.drop whole

/-- Write a number.  Both zeros are `0`. -/
def Number.toText : Number → Text
  | .nan => "NaN".toList
  | .signed negative m =>
    if m.rank = 0 then ['0']
    else (if negative then ['-'] else []) ++
      if m.isFinite then positional m.shortest.1 m.shortest.2 else "inf".toList

end LineScript
