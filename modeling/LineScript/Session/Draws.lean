/-
Random numbers.

The numbers a session draws come from a sequence that is fixed in advance; all that
drawing changes is how many have been taken.  Two runs are given the same luck by
giving them the same draws.
-/
import LineScript.Number.Basic

namespace LineScript

/-- A sequence of numbers to draw from, and how many have been drawn. -/
structure Draws where
  /-- The numbers in the order in which they are drawn. -/
  sequence : Nat → Number
  /-- How many have been drawn. -/
  taken : Nat := 0

namespace Draws

/-- Draw the next number. -/
def next (draws : Draws) : Number × Draws :=
  (draws.sequence draws.taken, { draws with taken := draws.taken + 1 })

/-- The number `k / 2 ^ 53`, which lies between 0 and 1 for a 53-bit `k`. -/
def fraction (k : Nat) : Number :=
  .signed false (.ofRatio (k * Magnitude.unitsPerOne) (2 * Magnitude.ranksPerPower))

/-- Spread the bits of a word over the whole word. -/
def scramble (x : UInt64) : UInt64 :=
  let x := (x ^^^ (x >>> 30)) * 0xBF58476D1CE4E5B9
  let x := (x ^^^ (x >>> 27)) * 0x94D049BB133111EB
  x ^^^ (x >>> 31)

/-- Draws that a seed determines: the scrambled multiples of an odd constant, cut
to 53 bits. -/
def ofSeed (seed : UInt64) : Draws where
  sequence index :=
    let word := scramble (seed + UInt64.ofNat (index + 1) * 0x9E3779B97F4A7C15)
    fraction (word >>> 11).toNat

end Draws

end LineScript
