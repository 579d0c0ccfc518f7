/-
Programs as trees, and what they mean.

The interpreter never builds a tree; this file does, to say what a well-nested script
means without levels and without lines that are passed over.  A program is a sequence
of plain lines and conditionals, and a conditional has a head line, a block and then
its branches up to the line that closes it, nested to any depth.  Each line carries the
proof of its keyword, so a tree with an `ELSE` where an `END` belongs cannot be built.
-/
import LineScript.Proofs.Step

namespace LineScript

/-- A line with a given block keyword, or with none. -/
structure Line (keyword? : Option Keyword) where
  text : Text
  keyword_eq : Keyword.ofLine? text = keyword?

mutual

/-- A block: plain lines and conditionals, in order. -/
inductive Program where
  | done
  | plain (line : Line none) (rest : Program)
  | conditional (head : Line (some .opening)) (body : Program) (branches : Branches)
      (rest : Program)

/-- What follows the first block of a conditional, up to the line that closes it. -/
inductive Branches where
  | closing (line : Line (some .closing))
  | elseIf (line : Line (some .elseIf)) (body : Program) (others : Branches)
  | otherwise (line : Line (some .otherwise)) (body : Program) (last : Line (some .closing))

end

/-! ### Lines -/

mutual

/-- The lines of a block. -/
def Program.lines : Program → List Text
  | .done => []
  | .plain line rest => line.text :: rest.lines
  | .conditional head body branches rest =>
    head.text :: (body.lines ++ (branches.lines ++ rest.lines))

/-- The lines of a conditional after its first block. -/
def Branches.lines : Branches → List Text
  | .closing line => [line.text]
  | .elseIf line body others => line.text :: (body.lines ++ others.lines)
  | .otherwise line body last => line.text :: (body.lines ++ [last.text])

end

/-- The lines of a program, each with a line feed behind it. -/
def Program.text (program : Program) : Text :=
  program.lines.flatMap (· ++ ['\n'])

/-- The line that ends the block before the branches. -/
def Branches.firstLine : Branches → Text
  | .closing line => line.text
  | .elseIf line _ _ => line.text
  | .otherwise line _ _ => line.text

/-! ### Meaning

The meaning is by recursion on the tree.  Of a conditional, the first block whose
condition holds is performed and every other block is left out altogether.  A condition
has its placeholders replaced and is evaluated only while no block has been chosen, and
an `ELSE` or `END` met then is not looked at further.  After the chosen block the one
line that ends it is replaced, and what becomes of it is dropped.
-/

section Meaning

variable {σ : Type} (host : Host σ)

/-- Replace the placeholders in the line of a conditional and evaluate its condition. -/
def decideLine (line : Text) : Effect σ Bool := do
  let replaced ← host.substitute line
  Script.decideCondition host (Keyword.conditionOf replaced.trim)

/-- Replace the placeholders in a line and drop what becomes of it. -/
def touchLine (line : Text) : Effect σ Unit := do
  let _ ← host.substitute line
  return ()

mutual

/-- Perform a block, which adds to a reply. -/
def Program.perform : Program → Text → Effect σ Text
  | .done, reply => return reply
  | .plain line rest, reply => do
    let replaced ← host.substitute line.text
    let reply ← Script.command host reply replaced.trim
    rest.perform reply
  | .conditional head body branches rest, reply => do
    if ← decideLine host head.text then
      let reply ← body.perform reply
      touchLine host branches.firstLine
      rest.perform reply
    else
      let reply ← branches.choose reply
      rest.perform reply

/-- Go on with a conditional of which no block has been chosen yet. -/
def Branches.choose : Branches → Text → Effect σ Text
  | .closing _, reply => return reply
  | .elseIf line body others, reply => do
    if ← decideLine host line.text then
      let reply ← body.perform reply
      touchLine host others.firstLine
      return reply
    else
      others.choose reply
  | .otherwise _ body last, reply => do
    let reply ← body.perform reply
    touchLine host last.text
    return reply

end

/-- The reply of a program. -/
def Program.run (program : Program) : Effect σ Text := do
  let reply ← program.perform host []
  return reply.trim

end Meaning

end LineScript
