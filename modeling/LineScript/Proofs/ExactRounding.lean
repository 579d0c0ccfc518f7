/-
What is exact is not rounded.

The ranks of magnitudes lie in rows.  Below the first power of two that has a row of its own, a
magnitude is as many units as its rank says; the row of the power `k` above that holds the same
significands, each `2 ^ k` units wide.  Written in rows, the rank of a value can be read off the
value, so rounding a quotient that is the value of a magnitude gives the magnitude back.  That is
all that reading a written number needs.
-/
import LineScript.Number.Shortest
import Mathlib.Algebra.Order.Ring.Nat
import Mathlib.Tactic.Ring

namespace LineScript

namespace Magnitude

/-! ### Rows of ranks -/

/-- Up to the first power of two that has a row, ranks count units. -/
theorem unitsAt_of_lt {rank : Nat} (h : rank < ranksPerPower) : unitsAt rank = rank := by
  unfold unitsAt
  rw [if_pos (by omega)]

/-- In the row of a power of two, neighbours are that power of two apart. -/
theorem unitsAt_row (k : Nat) {m : Nat} (hm : m < ranksPerPower) :
    unitsAt ((k + 1) * ranksPerPower + m) = (ranksPerPower + m) * 2 ^ k := by
  have hpos : 0 < ranksPerPower := by decide
  unfold unitsAt
  split
  · rename_i hfirst
    have hk : k = 0 := by
      by_contra hne
      have hrow : 2 * ranksPerPower ≤ (k + 1) * ranksPerPower :=
        Nat.mul_le_mul_right ranksPerPower (by omega)
      omega
    subst hk
    ring
  · have hdiv : ((k + 1) * ranksPerPower + m) / ranksPerPower = k + 1 := by
      rw [Nat.mul_comm, Nat.mul_add_div hpos, Nat.div_eq_of_lt hm, Nat.add_zero]
    have hmod : ((k + 1) * ranksPerPower + m) % ranksPerPower = m := by
      rw [Nat.mul_comm, Nat.mul_add_mod, Nat.mod_eq_of_lt hm]
    rw [hdiv, hmod, Nat.pow_eq, Nat.add_sub_cancel]

/-- Every rank is below all rows or in one of them. -/
private theorem rank_cases (rank : Nat) :
    rank < ranksPerPower ∨
      ∃ k m, m < ranksPerPower ∧ rank = (k + 1) * ranksPerPower + m := by
  have hpos : 0 < ranksPerPower := by decide
  by_cases h : rank < ranksPerPower
  · exact Or.inl h
  · refine Or.inr ⟨rank / ranksPerPower - 1, rank % ranksPerPower, Nat.mod_lt _ hpos, ?_⟩
    have hrow : 0 < rank / ranksPerPower := Nat.div_pos (by omega) hpos
    rw [Nat.sub_add_cancel hrow, Nat.mul_comm]
    exact (Nat.div_add_mod rank ranksPerPower).symm

/-- Values grow with the rank. -/
private theorem unitsAt_lt_succ (rank : Nat) : unitsAt rank < unitsAt (rank + 1) := by
  have hpos : 0 < ranksPerPower := by decide
  rcases rank_cases rank with h | ⟨k, m, hm, rfl⟩
  · rw [unitsAt_of_lt h]
    by_cases hlast : rank + 1 < ranksPerPower
    · rw [unitsAt_of_lt hlast]
      omega
    · have hnext : rank + 1 = (0 + 1) * ranksPerPower + 0 := by omega
      rw [hnext, unitsAt_row 0 hpos]
      omega
  · have hwidth : 0 < 2 ^ k := Nat.two_pow_pos k
    rw [unitsAt_row k hm]
    by_cases hlast : m + 1 < ranksPerPower
    · rw [Nat.add_assoc, unitsAt_row k hlast]
      exact Nat.mul_lt_mul_of_pos_right (by omega) hwidth
    · -- The last rank of a row is followed by the first of the next one, twice as wide.
      have hnext : (k + 1) * ranksPerPower + m + 1 = (k + 1 + 1) * ranksPerPower + 0 := by
        rw [Nat.add_mul (k + 1) 1]
        omega
      rw [hnext, unitsAt_row (k + 1) hpos]
      calc (ranksPerPower + m) * 2 ^ k
          < (2 * ranksPerPower) * 2 ^ k := Nat.mul_lt_mul_of_pos_right (by omega) hwidth
        _ = (ranksPerPower + 0) * 2 ^ (k + 1) := by ring

/-! ### From a value back to its rank -/

private theorem log2_row (k : Nat) {m : Nat} (hm : m < ranksPerPower) :
    Nat.log2 ((ranksPerPower + m) * 2 ^ k) = 52 + k := by
  have hpower : ranksPerPower = 2 ^ 52 := by decide
  have hwidth : 0 < 2 ^ k := Nat.two_pow_pos k
  have hne : (ranksPerPower + m) * 2 ^ k ≠ 0 := by
    have hpos : 0 < ranksPerPower := by decide
    exact (Nat.mul_pos (by omega) hwidth).ne'
  rw [Nat.log2_eq_iff hne]
  constructor
  · rw [Nat.pow_add, ← hpower]
    exact Nat.mul_le_mul_right _ (by omega)
  · calc (ranksPerPower + m) * 2 ^ k
        < (2 * ranksPerPower) * 2 ^ k := Nat.mul_lt_mul_of_pos_right (by omega) hwidth
      _ = 2 ^ (52 + k + 1) := by rw [hpower]; ring

/-- **The rank of a value is found again.** -/
theorem rankBelow_unitsAt (rank : Nat) : rankBelow (unitsAt rank) = rank := by
  rcases rank_cases rank with h | ⟨k, m, hm, rfl⟩
  · rw [unitsAt_of_lt h, rankBelow, if_pos (by omega)]
  · rw [unitsAt_row k hm, rankBelow]
    by_cases hfirst : k = 0
    · subst hfirst
      rw [if_pos (by omega)]
      omega
    · have hwide : 2 * ranksPerPower ≤ (ranksPerPower + m) * 2 ^ k := by
        obtain ⟨j, rfl⟩ := Nat.exists_eq_succ_of_ne_zero hfirst
        calc 2 * ranksPerPower = ranksPerPower * 2 ^ 1 := by ring
          _ ≤ (ranksPerPower + m) * 2 ^ (j + 1) :=
            Nat.mul_le_mul (by omega) (Nat.pow_le_pow_right (by omega) (by omega))
      have hshift : ((ranksPerPower + m) * 2 ^ k) >>> k = ranksPerPower + m := by
        rw [Nat.shiftRight_eq_div_pow, Nat.mul_div_cancel _ (Nat.two_pow_pos k)]
      rw [if_neg (by omega), log2_row k hm, Nat.add_sub_cancel_left, hshift]
      ring

theorem nearestRank_unitsAt (rank : Nat) {den : Nat} (h : 0 < den) :
    nearestRank (unitsAt rank * den) den = rank := by
  have hbelow : rankBelow (unitsAt rank * den / den) = rank := by
    rw [Nat.mul_div_cancel _ h, rankBelow_unitsAt]
  have hless : 2 * (unitsAt rank * den) < (unitsAt rank + unitsAt (rank + 1)) * den := by
    calc 2 * (unitsAt rank * den) = (unitsAt rank + unitsAt rank) * den := by ring
      _ < (unitsAt rank + unitsAt (rank + 1)) * den :=
        Nat.mul_lt_mul_of_pos_right (Nat.add_lt_add_left (unitsAt_lt_succ rank) _) h
  unfold nearestRank
  simp only [hbelow]
  rw [if_pos hless]

/-- **A quotient that is the value of a magnitude is not rounded.** -/
theorem ofRatio_units (m : Magnitude) {den : Nat} (h : 0 < den) :
    ofRatio (m.units * den) den = m := by
  have hrank : min (nearestRank (m.units * den) den) infinityRank = m.rank := by
    rw [units, nearestRank_unitsAt m.rank h, Nat.min_eq_left m.rank_le]
  cases m
  simpa [ofRatio] using hrank

/-! ### The digits that are written

They are the digits of a multiple of a power of ten which, rounded, is the magnitude: on every
grid that is tried, this is what is tried for, and the exact value, which is written when no grid
will do, is not rounded.
-/

theorem ofDecimal_zero (exponent : Int) : ofDecimal 0 exponent = zero := by
  cases exponent with
  | ofNat e =>
    rw [ofDecimal, Nat.zero_mul, Nat.zero_mul, ← Nat.zero_mul 1]
    exact ofRatio_units zero Nat.one_pos
  | negSucc e =>
    rw [ofDecimal, Nat.zero_mul, ← Nat.zero_mul (Nat.pow 10 (e + 1))]
    exact ofRatio_units zero (Nat.pow_pos (by omega))

/-- A value has as many decimal places as it has binary ones. -/
theorem ofDecimal_places (m : Magnitude) {n places : Nat} {exponent : Int}
    (hexponent : exponent = .negSucc n) (hplaces : places = n + 1)
    (hunits : unitsPerOne = Nat.pow 2 places) :
    ofDecimal (m.units * Nat.pow 5 places) exponent = m := by
  have hpower : m.units * Nat.pow 5 places * unitsPerOne = m.units * Nat.pow 10 (n + 1) := by
    rw [hunits, Nat.mul_assoc, ← hplaces]
    exact congrArg (m.units * ·) (Nat.mul_pow 5 2 places).symm
  rw [hexponent, ofDecimal, hpower]
  exact ofRatio_units m (Nat.pow_pos (by omega))

/-- The exact decimal value of a magnitude, which is never rounded. -/
theorem ofDecimal_units (m : Magnitude) : ofDecimal (m.units * Nat.pow 5 1074) (-1074) = m := by
  have hunits : unitsPerOne = Nat.pow 2 1074 := by
    unfold unitsPerOne
    with_reducible rfl
  -- The number of places becomes a name: its powers are too large to be computed here.
  generalize hplaces : 1074 = places at hunits ⊢
  exact m.ofDecimal_places rfl hplaces.symm hunits

theorem ofDecimal_of_onGrid? {m : Magnitude} {exponent : Int} {digits : Nat}
    (h : m.onGrid? exponent = some digits) : ofDecimal digits exponent = m := by
  unfold onGrid? at h
  simp only at h
  split at h
  · rename_i hbelow
    split at h
    · rename_i habove
      cases h
      exact habove.1
    · cases h
      exact hbelow
  · split at h
    · rename_i habove
      cases h
      exact habove
    · cases h

/-- **The digits that are written for a magnitude read back as the magnitude.** -/
theorem ofDecimal_shortest (m : Magnitude) : ofDecimal m.shortest.1 m.shortest.2 = m := by
  unfold shortest
  cases hfound : (List.range (m.wholePlaces + 325)).findSome? fun (i : Nat) =>
      (m.onGrid? ((m.wholePlaces : Int) - i)).map fun digits =>
        (digits, (m.wholePlaces : Int) - i) with
  | none => exact m.ofDecimal_units
  | some found =>
    obtain ⟨i, -, hgrid⟩ := List.exists_of_findSome?_eq_some hfound
    obtain ⟨digits, hdigits, rfl⟩ := Option.map_eq_some_iff.mp hgrid
    exact ofDecimal_of_onGrid? hdigits

end Magnitude

end LineScript
