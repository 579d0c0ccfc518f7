/-
How the comparison operators agree with one another.

The order of two values and their equality are decided apart, each by its own cases over the
kinds of the two values.  That the cases fit together is what makes the operators a comparison:
two values are equal exactly when their order is that of equals.  From there every operator but
the search is a test of one ordering, and what the operators have to do with one another is a
matter of the four answers there are: less, equal, greater, and no order at all.
-/
import LineScript.Condition.Operator
import Mathlib.Order.Compare

namespace LineScript

/-! ### Numbers -/

namespace Number

theorem compare?_eq_none_iff {x y : Number} : x.compare? y = none ↔ x = .nan ∨ y = .nan := by
  cases x <;> cases y <;> simp [compare?]

theorem compare?_swap (x y : Number) : y.compare? x = (x.compare? y).map Ordering.swap := by
  cases x with
  | nan => cases y <;> rfl
  | signed s m =>
    cases y with
    | nan => rfl
    | signed t n => exact congrArg some Std.OrientedOrd.eq_swap

end Number

/-! ### Values

There is no order exactly when a number is asked for that is not there.  Two texts are always
ordered, by their characters' code points; all other values need a number on both sides.
-/

namespace Value

/-- Is the value a text? -/
def isText : Value → Bool
  | .str _ => true
  | _ => false

/-- The two values have an order: both are texts, or both count as numbers. -/
def Comparable (l r : Value) : Prop :=
  (l.isText = true ∧ r.isText = true) ∨ (l.toNumber ≠ .nan ∧ r.toNumber ≠ .nan)

instance (l r : Value) : Decidable (Comparable l r) :=
  inferInstanceAs (Decidable (_ ∨ _))

private theorem exists_of_isText {v : Value} (h : v.isText = true) : ∃ text, v = .str text := by
  cases v with
  | str text => exact ⟨text, rfl⟩
  | num n => cases h
  | bool b => cases h

/-- Unless both values are texts, they are ordered as numbers. -/
theorem compare?_of_not_text {l r : Value} (h : ¬(l.isText = true ∧ r.isText = true)) :
    l.compare? r = l.toNumber.compare? r.toNumber := by
  cases l with
  | str x =>
    cases r with
    | str y => exact absurd ⟨rfl, rfl⟩ h
    | num n => rfl
    | bool b => rfl
  | num n => rfl
  | bool b => rfl

theorem compare?_eq_none_iff {l r : Value} : l.compare? r = none ↔ ¬ Comparable l r := by
  by_cases h : l.isText = true ∧ r.isText = true
  · obtain ⟨x, rfl⟩ := exists_of_isText h.1
    obtain ⟨y, rfl⟩ := exists_of_isText h.2
    simp [compare?, Comparable, isText]
  · rw [compare?_of_not_text h, Number.compare?_eq_none_iff, Comparable, or_iff_right h]
    by_cases hl : l.toNumber = .nan
    · simp [hl]
    · simp [hl]

theorem compare?_swap (l r : Value) : r.compare? l = (l.compare? r).map Ordering.swap := by
  by_cases h : l.isText = true ∧ r.isText = true
  · obtain ⟨x, rfl⟩ := exists_of_isText h.1
    obtain ⟨y, rfl⟩ := exists_of_isText h.2
    exact congrArg some Std.OrientedOrd.eq_swap
  · rw [compare?_of_not_text h, compare?_of_not_text fun hswap => h hswap.symm,
      Number.compare?_swap]

/-- **Two values are equal exactly when they are ordered as equals**, though the one is decided
without the other. -/
theorem looselyEqual_eq (l r : Value) : l.looselyEqual r = (l.compare? r == some .eq) := by
  cases l with
  | str x =>
    cases r with
    | str y =>
      rw [Bool.eq_iff_iff]
      simp [looselyEqual, compare?]
    | num n => rfl
    | bool b => rfl
  | num n => cases r <;> rfl
  | bool b =>
    cases r with
    | str y => rfl
    | num n => rfl
    | bool c => cases b <;> cases c <;> decide

/-- Texts are ordered by the code points of their characters. -/
theorem compare?_str_eq_lt_iff {x y : Text} :
    compare? (.str x) (.str y) = some .lt ↔ List.Lex (fun a b => a.toNat < b.toNat) x y := by
  rw [show compare? (.str x) (.str y) = some (compare x y) from rfl, Option.some_inj]
  induction x generalizing y with
  | nil =>
    cases y with
    | nil => simp
    | cons b y => simp
  | cons a x ih =>
    cases y with
    | nil => simp
    | cons b y =>
      have hcode : compare a b = .lt ↔ a.toNat < b.toNat := compareOfLessAndEq_eq_lt.trans Char.lt_def
      rw [List.compare_eq_compareLex] at ih ⊢
      rw [List.compareLex_cons_cons, Ordering.then_eq_lt, hcode, Std.compare_eq_iff_eq, ih,
        List.cons_lex_cons_iff]

end Value

/-! ### Operators -/

namespace Operator

/-- Does the operator hold between two values with this order?  The search asks for no order. -/
def accepts (op : Operator) (order? : Option Ordering) : Bool :=
  match op with
  | .greater => order? == some .gt
  | .less => order? == some .lt
  | .greaterOrEqual => order? == some .gt || order? == some .eq
  | .lessOrEqual => order? == some .lt || order? == some .eq
  | .equal => order? == some .eq
  | .notEqual => order? != some .eq
  | .contains => false

/-- The operator that asks the same with the operands exchanged. -/
def converse : Operator → Operator
  | .greater => .less
  | .less => .greater
  | .greaterOrEqual => .lessOrEqual
  | .lessOrEqual => .greaterOrEqual
  | .equal => .equal
  | .notEqual => .notEqual
  | .contains => .contains

/-- Every comparison is a test of the one order that two values have. -/
theorem holds_eq_accepts {op : Operator} (h : op ≠ .contains) (l r : Value) :
    op.holds l r = op.accepts (l.compare? r) := by
  cases op with
  | contains => exact absurd rfl h
  | equal => exact Value.looselyEqual_eq l r
  | notEqual => exact congrArg not (Value.looselyEqual_eq l r)
  | greater => rfl
  | less => rfl
  | greaterOrEqual => rfl
  | lessOrEqual => rfl

private theorem converse_ne_contains {op : Operator} (h : op ≠ .contains) :
    op.converse ≠ .contains := by
  cases op with
  | contains => exact absurd rfl h
  | _ => decide

private theorem accepts_swap (op : Operator) (order? : Option Ordering) :
    op.accepts (order?.map Ordering.swap) = op.converse.accepts order? := by
  rcases order? with _ | _ | _ | _ <;> cases op <;> rfl

/-- Each order is the one that just one of the three strict tests accepts. -/
theorem exists_accepts (order : Ordering) :
    ∃ op ∈ [greater, less, equal],
      ∀ other ∈ [greater, less, equal], other.accepts (some order) = true ↔ other = op := by
  cases order with
  | lt => exact ⟨less, by decide, by decide⟩
  | eq => exact ⟨equal, by decide, by decide⟩
  | gt => exact ⟨greater, by decide, by decide⟩

/-- Where there is no order, no test that asks for one holds. -/
theorem accepts_none :
    ∀ op ∈ [greater, less, greaterOrEqual, lessOrEqual, equal], op.accepts none = false := by
  decide

/-- **The operators are one comparison.**  Between two values that have an order exactly one of
greater, less and equal holds, and between two that have none none of the five tests that ask
for an order does.  Greater-or-equal and less-or-equal hold where one of their two halves does,
and not-equal where equal does not.  Exchanging the operands exchanges greater and less, and
leaves equality as it is.  The order of two texts is that of their code points. -/
theorem comparison_consistent (l r : Value) :
    (Value.Comparable l r → ∃! op, op ∈ [greater, less, equal] ∧ op.holds l r = true) ∧
    (¬ Value.Comparable l r →
      ∀ op ∈ [greater, less, greaterOrEqual, lessOrEqual, equal], op.holds l r = false) ∧
    greaterOrEqual.holds l r = (greater.holds l r || equal.holds l r) ∧
    lessOrEqual.holds l r = (less.holds l r || equal.holds l r) ∧
    notEqual.holds l r = !equal.holds l r ∧
    (∀ op, op ≠ contains → op.holds r l = op.converse.holds l r) ∧
    ∀ x y : Text, less.holds (.str x) (.str y) = true ↔
      List.Lex (fun a b => a.toNat < b.toNat) x y := by
  have hequal : equal.holds l r = (l.compare? r == some .eq) := Value.looselyEqual_eq l r
  refine ⟨?_, ?_, ?_, ?_, rfl, ?_, ?_⟩
  · intro hcomparable
    obtain ⟨order, horder⟩ := Option.ne_none_iff_exists'.mp
      fun hnone => Value.compare?_eq_none_iff.mp hnone hcomparable
    have htests : ∀ op ∈ [greater, less, equal], op.holds l r = op.accepts (some order) := by
      intro op hop
      rw [← horder]
      apply holds_eq_accepts
      rintro rfl
      exact absurd hop (by decide)
    obtain ⟨op, hop, hiff⟩ := exists_accepts order
    refine ⟨op, ⟨hop, ?_⟩, ?_⟩
    · rw [htests op hop]
      exact (hiff op hop).mpr rfl
    · rintro other ⟨hother, hholds⟩
      rw [htests other hother] at hholds
      exact (hiff other hother).mp hholds
  · intro hnot op hop
    have hne : op ≠ contains := by
      rintro rfl
      exact absurd hop (by decide)
    rw [holds_eq_accepts hne, Value.compare?_eq_none_iff.mpr hnot]
    exact accepts_none op hop
  · rw [hequal]
    rfl
  · rw [hequal]
    rfl
  · intro op hop
    rw [holds_eq_accepts hop, holds_eq_accepts (converse_ne_contains hop), Value.compare?_swap,
      accepts_swap]
  · intro x y
    rw [← Value.compare?_str_eq_lt_iff]
    exact beq_iff_eq

/-- Blank text counts as zero, and the two zeros are one number; a word is no number. -/
theorem comparison_consistent_blankText :
    (∃! op, op ∈ [greater, less, equal] ∧
      op.holds (.str [' ', '\t']) (.num (.signed true .zero)) = true) ∧
    greaterOrEqual.holds (.str "ten".toList) (.num .one) = false :=
  ⟨(comparison_consistent _ _).1 (by decide),
    (comparison_consistent _ _).2.1 (by decide) _ (by decide)⟩

end Operator

end LineScript
