/-
Magnitudes of double-precision numbers.

The non-negative doubles, infinity included, are numbered in order of size: rank 0
is zero, rank 1 the least positive double, and so on up to infinity.  The rank is
also the number's 64-bit pattern.  Every finite double is a whole multiple of
2^-1074, so its exact value is a natural number of such units, and rounding to
nearest is a comparison of natural numbers: nothing here divides and hopes.
-/

namespace LineScript

/-- The rank of infinity, which is the greatest rank. -/
def infinityRank : Nat := 0x7FF0000000000000

/-- A non-negative double or infinity, by its place in the order of size. -/
structure Magnitude where
  /-- The number of magnitudes below this one. -/
  rank : Nat
  /-- Infinity is the greatest magnitude. -/
  rank_le : rank ≤ infinityRank
deriving DecidableEq

namespace Magnitude

/-- Nothing. -/
def zero : Magnitude := ⟨0, by decide⟩

/-- One. -/
def one : Magnitude := ⟨0x3FF0000000000000, by decide⟩

/-- Larger than every finite magnitude. -/
def infinity : Magnitude := ⟨infinityRank, Nat.le_refl _⟩

/-- Is the magnitude that of a finite number? -/
def isFinite (m : Magnitude) : Bool :=
  decide (m.rank < infinityRank)

/-! ### Exact values

There are 2^52 ranks from one power of two to the next.  Up to rank 2^53 neighbours
are one unit apart; from there the distance doubles with every power of two.
-/

/-- How many units make one. -/
def unitsPerOne : Nat := Nat.pow 2 1074

/-- How many ranks there are from one power of two to the next: 2^52. -/
def ranksPerPower : Nat := 0x10000000000000

/-- The value at a rank, in units of 2^-1074.  At the rank of infinity this is the
power of two that would come next. -/
def unitsAt (rank : Nat) : Nat :=
  if rank < 2 * ranksPerPower then rank
  else (ranksPerPower + rank % ranksPerPower) * Nat.pow 2 (rank / ranksPerPower - 1)

/-- The value of a finite magnitude, in units of 2^-1074. -/
def units (m : Magnitude) : Nat :=
  unitsAt m.rank

/-! ### Rounding -/

/-- The greatest rank whose value is at most `units`. -/
def rankBelow (units : Nat) : Nat :=
  if units < 2 * ranksPerPower then units
  else (Nat.log2 units - 52) * ranksPerPower + units >>> (Nat.log2 units - 52)

/-- The rank whose value is nearest to the quotient `num / den` of units; halfway
between two ranks, the even one. -/
def nearestRank (num den : Nat) : Nat :=
  let below := rankBelow (num / den)
  let sum := unitsAt below + unitsAt (below + 1)
  if 2 * num < sum * den then below
  else if sum * den < 2 * num then below + 1
  else if below % 2 = 0 then below
  else below + 1

/-- The magnitude nearest to the quotient `num / den` of units.  What lies halfway
to the next power of two above the greatest finite magnitude, or beyond, is
infinite. -/
def ofRatio (num den : Nat) : Magnitude :=
  ⟨min (nearestRank num den) infinityRank, Nat.min_le_right _ _⟩

/-- The magnitude nearest to `digits * 10 ^ exponent`. -/
def ofDecimal (digits : Nat) : Int → Magnitude
  | .ofNat e => ofRatio (digits * Nat.pow 10 e * unitsPerOne) 1
  | .negSucc e => ofRatio (digits * unitsPerOne) (Nat.pow 10 (e + 1))

end Magnitude

end LineScript
