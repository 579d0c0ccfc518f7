/-
Reading numbers.

A numeral is an optional sign and then one of the words `inf`, `infinity` and `nan`
in any letter case, or decimal digits with at most one point among or around them
and an optional exponent.  No blank and no other mark is allowed.  The number read
is the nearest double to the exact decimal value.
-/
import LineScript.Text.Basic
import LineScript.Number.Basic

namespace LineScript

/-- A numeral, taken apart. -/
inductive Numeral where
  /-- The word for what is not a number. -/
  | nan
  /-- One of the words for infinity. -/
  | infinity (negative : Bool)
  /-- The whole number spelled by `digits`, times a power of ten. -/
  | decimal (negative : Bool) (digits : Text) (exponent : Int)
deriving DecidableEq

namespace Numeral

/-- A leading sign, as "is it a minus?", and the rest; without a sign, plus. -/
def splitSign : Text → Bool × Text
  | '+' :: rest => (false, rest)
  | '-' :: rest => (true, rest)
  | text => (false, text)

/-- The digits at the start of a text, and the rest. -/
def splitDigits (text : Text) : Text × Text :=
  (text.takeWhile Char.isDigit, text.dropWhile Char.isDigit)

/-- The digits after a point at the start of a text, and the rest. -/
def splitFraction : Text → Text × Text
  | '.' :: rest => splitDigits rest
  | text => ([], text)

/-- The whole number that decimal digits spell. -/
def wholeOf (digits : Text) : Nat :=
  digits.foldl (fun n d => 10 * n + (d.toNat - '0'.toNat)) 0

/-- The exponent that makes up the rest of a numeral; nothing is exponent zero. -/
def exponent? : Text → Option Int
  | [] => some 0
  | mark :: rest =>
    let (negative, digits) := splitSign rest
    if (mark = 'e' ∨ mark = 'E') ∧ digits ≠ [] ∧ digits.all Char.isDigit then
      some (if negative then -(wholeOf digits : Int) else wholeOf digits)
    else none

/-- A decimal numeral without its sign.  The point moves into the exponent. -/
def decimal? (negative : Bool) (text : Text) : Option Numeral :=
  let (whole, afterWhole) := splitDigits text
  let (fraction, afterFraction) := splitFraction afterWhole
  if whole = [] ∧ fraction = [] then none
  else (exponent? afterFraction).map fun e =>
    .decimal negative (whole ++ fraction) (e - fraction.length)

/-- Read a numeral; the whole text must be one. -/
def ofText? (text : Text) : Option Numeral :=
  let (negative, body) := splitSign text
  if Text.eqIgnoringCase body "inf".toList then some (.infinity negative)
  else if Text.eqIgnoringCase body "infinity".toList then some (.infinity negative)
  else if Text.eqIgnoringCase body "nan".toList then some .nan
  else decimal? negative body

/-- The magnitude of a decimal numeral.  Exponents that put every non-zero digit
beyond 10^400 or below 10^-1100 are not multiplied out: the result is infinite or
zero whatever the digits are. -/
def magnitude (digits : Text) (exponent : Int) : Magnitude :=
  if wholeOf digits = 0 then .zero
  else if 400 < exponent then .infinity
  else if exponent < -(digits.length + 1100 : Int) then .zero
  else .ofDecimal (wholeOf digits) exponent

/-- The number a numeral stands for. -/
def toNumber : Numeral → Number
  | .nan => .nan
  | .infinity negative => .signed negative .infinity
  | .decimal negative digits exponent => .signed negative (magnitude digits exponent)

end Numeral

/-- Read a number; `none` when the text is no numeral. -/
def Number.ofText? (text : Text) : Option Number :=
  (Numeral.ofText? text).map (·.toNumber)

end LineScript
