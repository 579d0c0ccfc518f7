/-
Conditions.

A condition is one comparison: left operand, operator, right operand.  There are no
brackets and no connectives, and whatever follows the right operand is ignored.  A
text that is no condition is simply false, and then nothing is looked up.
-/
import LineScript.Condition.Operator
import LineScript.Condition.Token
import LineScript.Effect

namespace LineScript

namespace Condition

/-- What operands that are not literals are looked up in. -/
structure Context (σ : Type) where
  /-- The value of a variable, if it is set. -/
  lookup (name : Text) : Effect σ (Option Value)
  /-- A number drawn at random from those between 0 and 1. -/
  draw : StateM σ Number

/-! ### Operands -/

/-- The name of the variable an operand refers to.  It may be written inside
double braces, alone or after the word for reading a variable. -/
def variableName (operand : Text) : Text :=
  match (List.isPrefixOf? ['{', '{'] operand).bind (List.isSuffixOf? ['}', '}']) with
  | some inner => Text.trim ((List.isPrefixOf? "getvar::".toList inner).getD inner)
  | none => operand

/-- The value of an operand: a literal, a random number or a variable, in this
order.  A variable that is not set counts as 0. -/
def resolve {σ : Type} (context : Context σ) (operand : Text) : Effect σ Value := do
  match Value.ofLiteral? operand with
  | some value => return value
  | none =>
    if operand.eqIgnoringCase "RANDOM".toList then
      return .num (← context.draw)
    else
      let found ← context.lookup (variableName operand)
      return found.getD (.num .zero)

/-! ### Evaluation -/

/-- The tokens of a condition, with a left operand of 0 put in front of a leading
operator: a placeholder on the left may have been replaced by nothing. -/
def operandsAndOperator (condition : Text) : List Token :=
  match Token.scan condition with
  | .marks run :: rest => .word ['0'] :: .marks run :: rest
  | tokens => tokens

/-- Is the condition true?  The operands are resolved from left to right, and only
when there is an operator between them. -/
def evaluate {σ : Type} (context : Context σ) (condition : Text) : Effect σ Bool := do
  match operandsAndOperator condition with
  | left :: operator :: right :: _ =>
    match Operator.ofText? operator.text with
    | some op =>
      let l ← resolve context left.text
      let r ← resolve context right.text
      return op.holds l r
    | none => return false
  | _ => return false

end Condition

end LineScript
