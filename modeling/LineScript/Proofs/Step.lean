/-
What one line does, keyword by keyword.

A line is judged by the block keyword it starts with, and by nothing else: the nine
equations below say, for a line with each keyword and for one with none, what it does
in an active block and what it does in a skipped one.  The proofs about whole runs
cite these equations and never look into the interpreter.
-/
import LineScript.Proofs.Outcome

namespace LineScript

/-! ### Keywords

What a line does to the nesting hangs on which of the four keywords it has, if any, and the
text behind the keyword matters only as a condition.  So the keyword is told apart from the
text, and the proofs go through the keywords.
-/

/-- The keywords that shape blocks. -/
inductive Keyword where
  | opening
  | elseIf
  | otherwise
  | closing
deriving DecidableEq

/-- The keyword of a line that shapes blocks. -/
def Block.keyword : Block → Keyword
  | .opening _ => .opening
  | .elseIf _ => .elseIf
  | .otherwise => .otherwise
  | .closing => .closing

namespace Keyword

/-- The block keyword a line starts with. -/
def ofLine? (line : Text) : Option Keyword :=
  (Block.ofLine? line).map Block.keyword

/-- What follows the keyword of a line when it is a condition; empty when it is not. -/
def conditionOf (line : Text) : Text :=
  match Block.ofLine? line with
  | some (.opening condition) => condition
  | some (.elseIf condition) => condition
  | _ => []

private theorem block_of_none {line : Text} (h : ofLine? line = none) : Block.ofLine? line = none :=
  Option.map_eq_none_iff.mp h

private theorem block_of_opening {line : Text} (h : ofLine? line = some .opening) :
    Block.ofLine? line = some (.opening (conditionOf line)) := by
  unfold conditionOf
  obtain ⟨block, hblock, hkeyword⟩ := Option.map_eq_some_iff.mp h
  cases block <;> cases hkeyword
  rw [hblock]

private theorem block_of_elseIf {line : Text} (h : ofLine? line = some .elseIf) :
    Block.ofLine? line = some (.elseIf (conditionOf line)) := by
  unfold conditionOf
  obtain ⟨block, hblock, hkeyword⟩ := Option.map_eq_some_iff.mp h
  cases block <;> cases hkeyword
  rw [hblock]

private theorem block_of_otherwise {line : Text} (h : ofLine? line = some .otherwise) :
    Block.ofLine? line = some .otherwise := by
  obtain ⟨block, hblock, hkeyword⟩ := Option.map_eq_some_iff.mp h
  cases block <;> cases hkeyword
  exact hblock

private theorem block_of_closing {line : Text} (h : ofLine? line = some .closing) :
    Block.ofLine? line = some .closing := by
  obtain ⟨block, hblock, hkeyword⟩ := Option.map_eq_some_iff.mp h
  cases block <;> cases hkeyword
  exact hblock

end Keyword

theorem Directive.ofLine_of_block {line : Text} {block : Block} (h : Block.ofLine? line = some block) :
    Directive.ofLine line = .block block := by
  unfold Directive.ofLine
  rw [h]

theorem Directive.ofLine_ne_block {line : Text} (h : Block.ofLine? line = none) (block : Block) :
    Directive.ofLine line ≠ .block block := by
  unfold Directive.ofLine
  simp only [h]
  repeat' split
  all_goals exact Directive.noConfusion

namespace Script

variable {σ : Type} (host : Host σ)

/-! ### Which of the two ways a line is met -/

/-- A line of a skipped block is passed over as it stands. -/
theorem step_of_suppressed {progress : Progress} (h : progress.nesting.top.suppressed = true)
    (line : Text) : step host progress line = passOver host progress line := by
  unfold step stepBy
  rw [if_pos h]
  rfl

/-- A line of an active block is carried out after its placeholders are replaced. -/
theorem step_of_active {progress : Progress} (h : progress.nesting.top.suppressed = false)
    (line : Text) :
    step host progress line =
      host.substitute line >>= fun replaced => carryOut host progress replaced.trim := by
  unfold step stepBy
  rw [if_neg (by simp [h])]
  rfl

/-! ### Starting another branch

There are four cases, and which of them applies is a matter of the innermost level and the
one around it: there is no block, the branch is already decided, the branch has no
condition, or its condition is evaluated.
-/

theorem enterBranch_outside (bottom : Level) (reply marker : Text) (condition? : Option Text) :
    enterBranch host ⟨.outside bottom, reply⟩ marker condition? =
      pure ⟨.outside bottom, reply ++ marker ++ [' ']⟩ := rfl

theorem enterBranch_of_decided {outer : Nesting} {level : Level} (reply marker : Text)
    (condition? : Option Text) (h : outer.top.suppressed = true ∨ level.matched = true) :
    enterBranch host ⟨outer.push level, reply⟩ marker condition? =
      pure ⟨outer.push .dead, reply⟩ := by
  have hdecided : (outer.top.suppressed || level.matched) = true := by simpa using h
  exact if_pos hdecided

theorem enterBranch_of_unconditional {outer : Nesting} {level : Level} (reply marker : Text)
    (houter : outer.top.suppressed = false) (hlevel : level.matched = false) :
    enterBranch host ⟨outer.push level, reply⟩ marker none =
      pure ⟨outer.push (.branch true), reply⟩ := by
  have hopen : ¬(outer.top.suppressed || level.matched) = true := by simp [houter, hlevel]
  exact if_neg hopen

theorem enterBranch_of_awaiting {outer : Nesting} {level : Level} (reply marker condition : Text)
    (houter : outer.top.suppressed = false) (hlevel : level.matched = false) :
    enterBranch host ⟨outer.push level, reply⟩ marker (some condition) =
      decideCondition host condition >>= fun taken =>
        pure ⟨outer.push (.branch taken), reply⟩ := by
  have hopen : ¬(outer.top.suppressed || level.matched) = true := by simp [houter, hlevel]
  exact if_neg hopen

/-! ### Lines of an active block -/

/-- What a line with no block keyword does in an active block: it may add to the reply
or store a variable. -/
def command (reply line : Text) : Effect σ Text :=
  match Directive.ofLine line with
  | .say text => return reply ++ text.trim.stripQuotes ++ [' ']
  | .set arguments =>
    match Assignment.ofSet? arguments with
    | some (name, value) => do
      host.store name value
      return reply
    | none => return reply
  | .setVar arguments =>
    match Assignment.ofSetVar? arguments with
    | some (name, value) => do
      host.store name value.toText
      return reply
    | none => return reply
  | _ => return reply

theorem carryOut_of_opening {line : Text} (h : Keyword.ofLine? line = some .opening)
    (progress : Progress) :
    carryOut host progress line =
      decideCondition host (Keyword.conditionOf line) >>= fun taken =>
        pure (progress.opening (.branch taken)) := by
  unfold carryOut carryOutBy
  rw [Directive.ofLine_of_block (Keyword.block_of_opening h)]

theorem carryOut_of_elseIf {line : Text} (h : Keyword.ofLine? line = some .elseIf)
    (progress : Progress) :
    carryOut host progress line =
      enterBranch host progress elseIfMarker (some (Keyword.conditionOf line)) := by
  unfold carryOut carryOutBy
  rw [Directive.ofLine_of_block (Keyword.block_of_elseIf h)]
  rfl

theorem carryOut_of_otherwise {line : Text} (h : Keyword.ofLine? line = some .otherwise)
    (progress : Progress) :
    carryOut host progress line = enterBranch host progress elseMarker none := by
  unfold carryOut carryOutBy
  rw [Directive.ofLine_of_block (Keyword.block_of_otherwise h)]
  rfl

theorem carryOut_of_closing {line : Text} (h : Keyword.ofLine? line = some .closing)
    (progress : Progress) : carryOut host progress line = pure progress.closing := by
  unfold carryOut carryOutBy
  rw [Directive.ofLine_of_block (Keyword.block_of_closing h)]

/-- A line with no block keyword leaves the blocks alone. -/
theorem carryOut_of_none {line : Text} (h : Keyword.ofLine? line = none) (progress : Progress) :
    carryOut host progress line =
      command host progress.reply line >>= fun reply => pure { progress with reply } := by
  have hne := Directive.ofLine_ne_block (Keyword.block_of_none h)
  unfold carryOut carryOutBy command
  cases hdirective : Directive.ofLine line with
  | block block => exact absurd hdirective (hne block)
  | say text => rfl
  | set arguments =>
    simp only
    cases Assignment.ofSet? arguments with
    | none => simp
    | some found => simp
  | setVar arguments =>
    simp only
    cases Assignment.ofSetVar? arguments with
    | none => simp
    | some found => simp
  | unknown => rfl

/-! ### Lines of a skipped block

Here a line is judged as it stands.  An `ELSE IF` is the only line with two equations, since
it alone may have its placeholders replaced after all.
-/

theorem passOver_of_opening {line : Text} (h : Keyword.ofLine? line = some .opening)
    (progress : Progress) : passOver host progress line = pure (progress.opening .dead) := by
  unfold passOver passOverBy
  rw [Keyword.block_of_opening h]

theorem passOver_of_otherwise {line : Text} (h : Keyword.ofLine? line = some .otherwise)
    (progress : Progress) :
    passOver host progress line = enterBranch host progress elseMarker none := by
  unfold passOver passOverBy
  rw [Keyword.block_of_otherwise h]
  rfl

theorem passOver_of_closing {line : Text} (h : Keyword.ofLine? line = some .closing)
    (progress : Progress) : passOver host progress line = pure progress.closing := by
  unfold passOver passOverBy
  rw [Keyword.block_of_closing h]

theorem passOver_of_none {line : Text} (h : Keyword.ofLine? line = none) (progress : Progress) :
    passOver host progress line = pure progress := by
  unfold passOver passOverBy
  rw [Keyword.block_of_none h]

/-- The one line of a skipped block that is looked at again after its placeholders are
replaced.  It need not have the keyword any more, and then its condition is empty. -/
theorem passOver_of_awaited {line : Text} (h : Keyword.ofLine? line = some .elseIf)
    {progress : Progress} (hawaits : progress.nesting.awaitsBranch = true) :
    passOver host progress line =
      host.substitute line >>= fun replaced =>
        enterBranch host progress elseIfMarker (some (branchCondition replaced.trim)) := by
  unfold passOver passOverBy
  rw [Keyword.block_of_elseIf h]
  simp only [hawaits, if_true]
  rfl

theorem passOver_of_unawaited {line : Text} (h : Keyword.ofLine? line = some .elseIf)
    {progress : Progress} (hawaits : progress.nesting.awaitsBranch = false) :
    passOver host progress line = enterBranch host progress elseIfMarker none := by
  unfold passOver passOverBy
  rw [Keyword.block_of_elseIf h]
  simp only [hawaits, Bool.false_eq_true, if_false]
  rfl

theorem branchCondition_of_elseIf {line : Text} (h : Keyword.ofLine? line = some .elseIf) :
    branchCondition line = Keyword.conditionOf line := by
  unfold branchCondition
  rw [Keyword.block_of_elseIf h]

end Script

end LineScript
