/-
Double-precision numbers.

A number is a sign and a magnitude, or not a number.  The two zeros are different
numbers that compare as equal, and what is not a number compares with nothing, not
even with itself.  All operations are on the exact representation, so they can be
computed with inside a proof.
-/
import LineScript.Number.Magnitude

namespace LineScript

/-- A double-precision number. -/
inductive Number where
  /-- Not a number. -/
  | nan
  /-- A magnitude with a sign; zero has both signs. -/
  | signed (negative : Bool) (magnitude : Magnitude)
deriving DecidableEq

namespace Number

/-- The positive zero. -/
def zero : Number := .signed false .zero

/-- One. -/
def one : Number := .signed false .one

/-- Is the number neither infinite nor `nan`? -/
def isFinite : Number → Bool
  | .nan => false
  | .signed _ m => m.isFinite

/-- The place of a signed magnitude in the order of the numbers; the two zeros have
the same place. -/
def place (negative : Bool) (m : Magnitude) : Int :=
  if negative then -(m.rank : Int) else m.rank

/-- How two numbers compare, unless one of them is `nan`. -/
def compare? : Number → Number → Option Ordering
  | .signed s m, .signed t n => some (compare (place s m) (place t n))
  | _, _ => none

/-- Numerical equality: the zeros are equal and `nan` equals nothing. -/
def equals (x y : Number) : Bool :=
  x.compare? y == some .eq

/-- The 64 bits that represent a number in the interchange format; `nan` has no one
representation. -/
def bits? : Number → Option Nat
  | .nan => none
  | .signed negative m => some ((if negative then 0x8000000000000000 else 0) + m.rank)

end Number

end LineScript
