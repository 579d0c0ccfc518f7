/-
Running a script.

A script is run line by line; its blocks are never built into a tree.  The nesting
of the open blocks and the reply so far are all that a line passes on to the next.

A line in an active block has its placeholders replaced and is then carried out,
whatever it has become.  A line in a skipped block is looked at only for its block
keyword, as it stands, so that nesting stays balanced; the one exception is a
branch condition that can still wake its block, which is replaced and decided.

Nothing in a script's text makes a run fail.  A run fails when a call of the host
fails, and then the reply is lost and the host is left as the call left it.
-/
import LineScript.Directive
import LineScript.Host.Basic
import LineScript.Nesting

namespace LineScript

namespace Script

/-! ### The last message in a condition -/

/-- The word that stands for the last message in a condition. -/
def messageWord : Text := "LAST_MESSAGE".toList

/-- A message as a quoted text.  Its own double quotes become single ones, so that
it stays one quoted text whatever it says. -/
def quoteMessage (message : Text) : Text :=
  '"' :: message.map (fun c => if c = '"' then '\x27' else c) ++ ['"']

/-- A condition with the message in place of every occurrence of its word. -/
def withMessage (message condition : Text) : Text :=
  condition.replaceAll messageWord (quoteMessage message)

/-! ### State of a run -/

/-- What a line passes on to the next. -/
structure Progress where
  /-- The open blocks. -/
  nesting : Nesting
  /-- The reply so far. -/
  reply : Text

namespace Progress

/-- No open block and nothing said. -/
def start : Progress := ⟨.base, []⟩

/-- Add a text and a space to the reply. -/
def say (progress : Progress) (text : Text) : Progress :=
  { progress with reply := progress.reply ++ text ++ [' '] }

/-- Open a block. -/
def opening (progress : Progress) (level : Level) : Progress :=
  { progress with nesting := progress.nesting.push level }

/-- Close the innermost block, if there is one. -/
def closing (progress : Progress) : Progress :=
  { progress with nesting := progress.nesting.pop }

/-- Put the innermost block at another level. -/
def atLevel (progress : Progress) (level : Level) : Progress :=
  { progress with nesting := progress.nesting.setTop level }

end Progress

/-- Said in place of an `ELSE IF` outside all blocks. -/
def elseIfMarker : Text := "[Error: ELSE IF without IF]".toList

/-- Said in place of an `ELSE` outside all blocks. -/
def elseMarker : Text := "[Error: ELSE without IF]".toList

/-! ### One line

How the condition of another branch is decided is a parameter of all that a line does,
down to the one place where it matters.  So it can be said of a line that it makes no
difference how, which is to say that the line evaluates no such condition.
-/

variable {σ : Type}

/-- Decide a condition.  The host is asked for the last message only when the
condition mentions it. -/
def decideCondition (host : Host σ) (condition : Text) : Effect σ Bool := do
  if Text.occursIn messageWord condition then
    let message ← host.lastMessage
    Condition.evaluate host.context (withMessage message condition)
  else
    Condition.evaluate host.context condition

section

variable (host : Host σ) (decide : Text → Effect σ Bool)

/-- Start another branch of the innermost block.  A branch with no condition, or
with one that does not matter, is given `none`.  Outside all blocks the marker is
said instead. -/
def enterBranchBy (progress : Progress) (marker : Text) (condition? : Option Text) :
    Effect σ Progress := do
  match progress.nesting.parent? with
  | none => return progress.say marker
  | some parent =>
    if parent.suppressed || progress.nesting.top.matched then
      return progress.atLevel .dead
    else
      match condition? with
      | none => return progress.atLevel (.branch true)
      | some condition =>
        let taken ← decide condition
        return progress.atLevel (.branch taken)

/-- Carry out a line of an active block, its placeholders already replaced. -/
def carryOutBy (progress : Progress) (line : Text) : Effect σ Progress := do
  match Directive.ofLine line with
  | .block (.opening condition) =>
    let taken ← decideCondition host condition
    return progress.opening (.branch taken)
  | .block (.elseIf condition) => enterBranchBy decide progress elseIfMarker (some condition)
  | .block .otherwise => enterBranchBy decide progress elseMarker none
  | .block .closing => return progress.closing
  | .say text => return progress.say text.trim.stripQuotes
  | .set arguments =>
    match Assignment.ofSet? arguments with
    | some (name, value) => host.store name value
    | none => pure ()
    return progress
  | .setVar arguments =>
    match Assignment.ofSetVar? arguments with
    | some (name, value) => host.store name value.toText
    | none => pure ()
    return progress
  | .unknown => return progress

/-- The condition of a branch line after its placeholders are replaced; empty if it
is no such line any more. -/
def branchCondition (line : Text) : Text :=
  match Block.ofLine? line with
  | some (.elseIf condition) => condition
  | _ => []

/-- Pass over a line of a skipped block. -/
def passOverBy (progress : Progress) (line : Text) : Effect σ Progress := do
  match Block.ofLine? line with
  | some (.opening _) => return progress.opening .dead
  | some (.elseIf _) =>
    if progress.nesting.awaitsBranch then
      let replaced ← host.substitute line
      enterBranchBy decide progress elseIfMarker (some (branchCondition replaced.trim))
    else
      enterBranchBy decide progress elseIfMarker none
  | some .otherwise => enterBranchBy decide progress elseMarker none
  | some .closing => return progress.closing
  | none => return progress

/-- Go on by one line. -/
def stepBy (progress : Progress) (line : Text) : Effect σ Progress := do
  if progress.nesting.top.suppressed then
    passOverBy host decide progress line
  else
    let replaced ← host.substitute line
    carryOutBy host decide progress replaced.trim

end

/-- Start another branch; its condition is decided like any other. -/
def enterBranch (host : Host σ) : Progress → Text → Option Text → Effect σ Progress :=
  enterBranchBy (decideCondition host)

/-- Carry out a line of an active block; all conditions are decided alike. -/
def carryOut (host : Host σ) : Progress → Text → Effect σ Progress :=
  carryOutBy host (decideCondition host)

/-- Pass over a line of a skipped block; all conditions are decided alike. -/
def passOver (host : Host σ) : Progress → Text → Effect σ Progress :=
  passOverBy host (decideCondition host)

/-- Go on by one line; all conditions are decided alike. -/
def step (host : Host σ) : Progress → Text → Effect σ Progress :=
  stepBy host (decideCondition host)

/-! ### Whole scripts -/

/-- The lines of a script that count: those that are not blank, without the blanks
around them. -/
def directiveLines (script : Text) : List Text :=
  (script.lines.map Text.trim).filter (· ≠ [])

/-- Go on by a list of lines. -/
def steps (host : Host σ) (progress : Progress) (lines : List Text) : Effect σ Progress :=
  lines.foldlM (step host) progress

/-- Run a script to its end and give the reply.  Blocks may be left open. -/
def run (host : Host σ) (script : Text) : Effect σ Text := do
  let progress ← steps host .start (directiveLines script)
  return progress.reply.trim

/-- The reply of a run that failed. -/
def failureMarker (failure : Failure) : Text :=
  "[Logic Error: ".toList ++ failure.message ++ [']']

/-- Run a script; when it fails, the reply says why. -/
def reply (host : Host σ) (script : Text) : StateM σ Text := do
  match ← (run host script).run with
  | .ok text => return text
  | .error failure => return failureMarker failure

end Script

end LineScript
