/-
Directives: what one line of a script asks for.

A line is a directive when it starts with a keyword, in any ASCII letter case; a
keyword that takes an argument ends with a space.  The keywords are tried in a
fixed order, and `ELSE` and `END` need nothing after them, so `ENDIF` closes a
block and `ELSEWHERE` is an else.  Lines with no keyword ask for nothing.

The four keywords that shape blocks stand apart from the rest: they are the only
ones that count in a part of the script that is skipped.
-/
import LineScript.Value

namespace LineScript

/-- The lines that shape blocks. -/
inductive Block where
  /-- Opens a block whose first branch has a condition. -/
  | opening (condition : Text)
  /-- Starts another branch with a condition. -/
  | elseIf (condition : Text)
  /-- Starts a branch without a condition. -/
  | otherwise
  | closing
deriving DecidableEq

/-- What a line asks for. -/
inductive Directive where
  | block (shape : Block)
  | say (text : Text)
  /-- Set a variable to a text. -/
  | set (arguments : Text)
  /-- Set a variable to an inferred value. -/
  | setVar (arguments : Text)
  | unknown
deriving DecidableEq

/-- The block keyword a line starts with, with its condition. -/
def Block.ofLine? (line : Text) : Option Block :=
  match line.afterKeyword? "IF ".toList with
  | some rest => some (.opening rest.trim)
  | none =>
    match line.afterKeyword? "ELSE IF ".toList with
    | some rest => some (.elseIf rest.trim)
    | none =>
      if (line.afterKeyword? "ELSE".toList).isSome then some .otherwise
      else if (line.afterKeyword? "END".toList).isSome then some .closing
      else none

/-- What a line asks for.  The argument of a keyword other than the block keywords
is everything after its space. -/
def Directive.ofLine (line : Text) : Directive :=
  match Block.ofLine? line with
  | some found => .block found
  | none =>
    match line.afterKeyword? "SAY ".toList with
    | some rest => .say rest
    | none =>
      match line.afterKeyword? "SET ".toList with
      | some rest => .set rest
      | none =>
        match line.afterKeyword? "SETVAR ".toList with
        | some rest => .setVar rest
        | none => .unknown

namespace Assignment

/-- The name and text of `name = text`, cut at the first `=`.  Blanks around both
and one layer of quotes around the text are dropped; the name must not be blank. -/
def ofSet? (arguments : Text) : Option (Text × Text) := do
  let (before, after) ← arguments.cutAt? (· == '=')
  let name := before.trim
  if name = [] then none else some (name, after.trim.stripQuotes)

/-- The name and value of `name value`, cut at the first blank.  The value is
inferred from what follows, which must not be blank. -/
def ofSetVar? (arguments : Text) : Option (Text × Value) := do
  let (name, after) ← arguments.trim.cutAt? Text.isBlank
  let value := after.trim
  if value = [] then none else some (name, .infer value)

end Assignment

end LineScript
