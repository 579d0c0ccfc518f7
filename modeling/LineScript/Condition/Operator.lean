/-
The comparison operators of conditions.
-/
import LineScript.Text.Needle
import LineScript.Value

namespace LineScript

/-- What a condition asks of its two operands. -/
inductive Operator where
  | greater
  | less
  | greaterOrEqual
  | lessOrEqual
  | equal
  | notEqual
  /-- The right operand's text occurs in the left one's, letter case ignored. -/
  | contains
deriving DecidableEq

namespace Operator

/-- Read an operator; the two words are read in any ASCII letter case. -/
def ofText? (text : Text) : Option Operator :=
  if text = ['>'] then some .greater
  else if text = ['<'] then some .less
  else if text = ['>', '='] then some .greaterOrEqual
  else if text = ['<', '='] then some .lessOrEqual
  else if text = ['=', '='] ∨ text = ['='] then some .equal
  else if text = ['!', '='] then some .notEqual
  else if text.eqIgnoringCase "CONTAINS".toList ∨ text.eqIgnoringCase "HAS".toList then
    some .contains
  else none

/-- Does the operator hold between two values? -/
def holds (op : Operator) (l r : Value) : Bool :=
  match op with
  | .greater => l.compare? r == some .gt
  | .less => l.compare? r == some .lt
  | .greaterOrEqual => l.compare? r == some .gt || l.compare? r == some .eq
  | .lessOrEqual => l.compare? r == some .lt || l.compare? r == some .eq
  | .equal => l.looselyEqual r
  | .notEqual => !l.looselyEqual r
  | .contains => l.toText.containsIgnoringCase r.toText

end Operator

end LineScript
