/-
Values and how they compare.

Every variable is kept as text.  On reading, text that looks like a finite number
or a boolean becomes one; everything else stays text, untouched.  Values of
different kinds are compared as numbers: a boolean counts as 0 or 1, blank text as
0, and other text as the number it spells or as `nan`.
-/
import LineScript.Text.Blank
import LineScript.Number.Shortest

namespace LineScript

/-- What a condition compares. -/
inductive Value where
  | num (n : Number)
  | bool (b : Bool)
  /-- Text that stands for itself. -/
  | str (text : Text)
deriving DecidableEq

namespace Value

/-! ### From text -/

/-- The finite number a text spells, blanks around it ignored. -/
def finiteNumber? (text : Text) : Option Number :=
  (Number.ofText? text.trim).filter Number.isFinite

/-- The truth value a text spells, in any ASCII letter case. -/
def boolean? (text : Text) : Option Bool :=
  if text.eqIgnoringCase "true".toList then some true
  else if text.eqIgnoringCase "false".toList then some false
  else none

/-- The value of a stored text. -/
def ofStored (raw : Text) : Value :=
  match finiteNumber? raw with
  | some n => .num n
  | none =>
    match boolean? raw.trim with
    | some b => .bool b
    | none => .str raw

/-- The value of a literal: quoted text, a finite number or a truth value. -/
def ofLiteral? (token : Text) : Option Value :=
  match token.quoted? with
  | some inner => some (.str inner)
  | none =>
    match finiteNumber? token with
    | some n => some (.num n)
    | none => (boolean? token).map .bool

/-- The value of a token that is text unless it is a literal of another kind. -/
def infer (token : Text) : Value :=
  (ofLiteral? token).getD (.str token)

/-! ### To text and to numbers -/

/-- The text that shows a value, which is also the text it is stored as. -/
def toText : Value → Text
  | .num n => n.toText
  | .bool true => "true".toList
  | .bool false => "false".toList
  | .str text => text

/-- The name of a value's kind. -/
def kind : Value → Text
  | .num _ => "number".toList
  | .bool _ => "boolean".toList
  | .str _ => "string".toList

/-- The number a value counts as. -/
def toNumber : Value → Number
  | .num n => n
  | .bool true => .one
  | .bool false => .zero
  | .str text =>
    let trimmed := text.trim
    if trimmed = [] then .zero else (Number.ofText? trimmed).getD .nan

/-! ### Comparing -/

/-- Are two values of the same kind and equal?  Numbers are equal as numbers: the
zeros are equal and `nan` is not equal to itself. -/
def same : Value → Value → Bool
  | .num x, .num y => x.equals y
  | .bool x, .bool y => x == y
  | .str x, .str y => x == y
  | _, _ => false

/-- Equality that lets values of different kinds meet as numbers. -/
def looselyEqual (l r : Value) : Bool :=
  match l, r with
  | .str x, .str y => x == y
  | .bool x, .bool y => x == y
  | .num x, .num y => x.equals y
  | _, _ => l.toNumber.equals r.toNumber

/-- The order of two values: texts by code point, all else as numbers.  `none` when
a number in question is `nan`. -/
def compare? (l r : Value) : Option Ordering :=
  match l, r with
  | .str x, .str y => some (compare x y)
  | _, _ => l.toNumber.compare? r.toNumber

end Value

end LineScript
