/-
Closing what a script leaves open, and running another behind it.

Three things make one run out of two.  A run only ever adds to the reply and never reads
it, so what was said before it stays in front and changes nothing else.  A line opens at
most one block, so as many lines `END` as a script has lines close all that it can have
left open; the ones too many are met outside all blocks and do nothing.  And a line feed
keeps the lines of two scripts apart.

The host must leave the closing line as it is.  A session does, since there is no
placeholder in it.
-/
import LineScript.Proofs.Depth

namespace LineScript

namespace Script

variable {σ : Type} (host : Host σ)

/-! ### What was said before

Nothing a line does looks at the reply.  So every part of the interpreter goes the same way
with a text in front of the reply, and so does a run.
-/

/-- The same progress with something said before. -/
def Progress.behind (said : Text) (progress : Progress) : Progress :=
  { progress with reply := said ++ progress.reply }

private theorem enterBranch_behind (said : Text) (progress : Progress) (marker : Text)
    (condition? : Option Text) :
    enterBranch host (progress.behind said) marker condition? =
      enterBranch host progress marker condition? >>= fun next => pure (next.behind said) := by
  obtain ⟨nesting, reply⟩ := progress
  show enterBranch host ⟨nesting, said ++ reply⟩ marker condition? = _
  obtain ⟨bottom, rfl⟩ | ⟨outer, level, rfl⟩ := nesting.eq_outside_or_push
  · rw [enterBranch_outside, enterBranch_outside, pure_bind]
    simp [Progress.behind]
  · by_cases hdecided : outer.top.suppressed = true ∨ level.matched = true
    · rw [enterBranch_of_decided host _ _ _ hdecided, enterBranch_of_decided host _ _ _ hdecided,
        pure_bind]
      rfl
    · simp only [not_or, Bool.not_eq_true] at hdecided
      obtain ⟨houter, hlevel⟩ := hdecided
      cases condition? with
      | none =>
        rw [enterBranch_of_unconditional host _ _ houter hlevel,
          enterBranch_of_unconditional host _ _ houter hlevel, pure_bind]
        rfl
      | some condition =>
        rw [enterBranch_of_awaiting host _ _ _ houter hlevel,
          enterBranch_of_awaiting host _ _ _ houter hlevel, bind_assoc]
        rfl

private theorem command_append (said reply line : Text) :
    command host (said ++ reply) line =
      command host reply line >>= fun reply => pure (said ++ reply) := by
  unfold command
  cases Directive.ofLine line with
  | say text => simp
  | set arguments =>
    simp only
    cases Assignment.ofSet? arguments <;> simp
  | setVar arguments =>
    simp only
    cases Assignment.ofSetVar? arguments <;> simp
  | block shape => simp
  | unknown => simp

private theorem carryOut_behind (said : Text) (progress : Progress) (line : Text) :
    carryOut host (progress.behind said) line =
      carryOut host progress line >>= fun next => pure (next.behind said) := by
  cases hkeyword : Keyword.ofLine? line with
  | none =>
    have hreply : (progress.behind said).reply = said ++ progress.reply := rfl
    rw [carryOut_of_none host hkeyword, carryOut_of_none host hkeyword, hreply, command_append,
      bind_assoc, bind_assoc]
    simp only [pure_bind]
    rfl
  | some keyword =>
    cases keyword with
    | opening =>
      rw [carryOut_of_opening host hkeyword, carryOut_of_opening host hkeyword, bind_assoc]
      simp only [pure_bind]
      rfl
    | elseIf =>
      rw [carryOut_of_elseIf host hkeyword, carryOut_of_elseIf host hkeyword]
      exact enterBranch_behind host said progress _ _
    | otherwise =>
      rw [carryOut_of_otherwise host hkeyword, carryOut_of_otherwise host hkeyword]
      exact enterBranch_behind host said progress _ _
    | closing =>
      rw [carryOut_of_closing host hkeyword, carryOut_of_closing host hkeyword, pure_bind]
      rfl

private theorem passOver_behind (said : Text) (progress : Progress) (line : Text) :
    passOver host (progress.behind said) line =
      passOver host progress line >>= fun next => pure (next.behind said) := by
  cases hkeyword : Keyword.ofLine? line with
  | none =>
    rw [passOver_of_none host hkeyword, passOver_of_none host hkeyword, pure_bind]
  | some keyword =>
    cases keyword with
    | opening =>
      rw [passOver_of_opening host hkeyword, passOver_of_opening host hkeyword, pure_bind]
      rfl
    | elseIf =>
      have hsame : (progress.behind said).nesting = progress.nesting := rfl
      cases hawaits : progress.nesting.awaitsBranch with
      | true =>
        rw [passOver_of_awaited host hkeyword (hsame ▸ hawaits),
          passOver_of_awaited host hkeyword hawaits, bind_assoc]
        refine bind_congr fun replaced => ?_
        exact enterBranch_behind host said progress _ _
      | false =>
        rw [passOver_of_unawaited host hkeyword (hsame ▸ hawaits),
          passOver_of_unawaited host hkeyword hawaits]
        exact enterBranch_behind host said progress _ _
    | otherwise =>
      rw [passOver_of_otherwise host hkeyword, passOver_of_otherwise host hkeyword]
      exact enterBranch_behind host said progress _ _
    | closing =>
      rw [passOver_of_closing host hkeyword, passOver_of_closing host hkeyword, pure_bind]
      rfl

theorem step_behind (said : Text) (progress : Progress) (line : Text) :
    step host (progress.behind said) line =
      step host progress line >>= fun next => pure (next.behind said) := by
  have hsame : (progress.behind said).nesting = progress.nesting := rfl
  cases hskipped : progress.nesting.top.suppressed with
  | true =>
    rw [step_of_suppressed host (hsame ▸ hskipped), step_of_suppressed host hskipped]
    exact passOver_behind host said progress line
  | false =>
    rw [step_of_active host (hsame ▸ hskipped), step_of_active host hskipped, bind_assoc]
    refine bind_congr fun replaced => ?_
    exact carryOut_behind host said progress replaced.trim

/-- What was said before stays in front, and the run is the same. -/
theorem steps_behind (said : Text) (progress : Progress) (lines : List Text) :
    steps host (progress.behind said) lines =
      steps host progress lines >>= fun next => pure (next.behind said) := by
  induction lines generalizing progress with
  | nil => rfl
  | cons line rest ih =>
    rw [steps_cons, steps_cons, step_behind, bind_assoc, bind_assoc]
    refine bind_congr fun next => ?_
    rw [pure_bind]
    exact ih next

/-! ### Closing all blocks

A run has opened at most as many blocks as it has had lines.  Closing lines that are left over
close nothing and say nothing, and the base they leave is the one the run started with.
-/

/-- The line that closes a block. -/
def closingLine : Text := "END".toList

private theorem keyword_closingLine : Keyword.ofLine? closingLine = some .closing := by decide

variable {host}

theorem step_closingLine (hkeep : host.substitute closingLine = pure closingLine)
    (levels : List Level) (bottom : Level) (reply : Text) :
    step host ⟨⟨levels, bottom⟩, reply⟩ closingLine =
      pure ⟨⟨levels.drop 1, bottom⟩, reply⟩ := by
  have hclosing : (Progress.mk ⟨levels, bottom⟩ reply).closing =
      ⟨⟨levels.drop 1, bottom⟩, reply⟩ := by
    cases levels <;> rfl
  have htrim : closingLine.trim = closingLine := by decide
  cases hskipped : (Progress.mk ⟨levels, bottom⟩ reply).nesting.top.suppressed with
  | true =>
    rw [step_of_suppressed host hskipped, passOver_of_closing host keyword_closingLine, hclosing]
  | false =>
    rw [step_of_active host hskipped, hkeep, pure_bind, htrim,
      carryOut_of_closing host keyword_closingLine, hclosing]

/-- Closing lines close one block each, and do nothing when all are closed. -/
theorem steps_closingLines (hkeep : host.substitute closingLine = pure closingLine) (n : Nat)
    (levels : List Level) (bottom : Level) (reply : Text) :
    steps host ⟨⟨levels, bottom⟩, reply⟩ (List.replicate n closingLine) =
      pure ⟨⟨levels.drop n, bottom⟩, reply⟩ := by
  induction n generalizing levels with
  | zero => rfl
  | succ n ih =>
    rw [List.replicate_succ, steps_cons, step_closingLine hkeep, pure_bind, ih, List.drop_drop,
      Nat.add_comm]

/-- No run is nested deeper than it has lines. -/
theorem depth_steps_le {progress next : Progress} {lines : List Text} {state left : σ}
    (h : Effect.outcome (steps host progress lines) state = (.ok next, left)) :
    next.nesting.depth ≤ progress.nesting.depth + lines.length := by
  induction lines generalizing progress state with
  | nil =>
    cases h
    exact Nat.le_refl _
  | cons line rest ih =>
    rw [steps_cons] at h
    obtain ⟨between, middle, hstep, hrest⟩ := Effect.outcome_bind_eq_ok h
    obtain ⟨keyword?, hmove⟩ := move_of_step hstep
    have hdepth := hmove.depth
    have hbound := Keyword.depthAfter_le progress.nesting.depth keyword?
    have hafter := ih hrest
    rw [List.length_cons]
    omega

/-- As many closing lines as a run had lines close all blocks. -/
theorem steps_closingLines_of_ended (hkeep : host.substitute closingLine = pure closingLine)
    {lines : List Text} {state left : σ} {ended : Progress} {n : Nat}
    (hended : Effect.outcome (steps host .start lines) state = (.ok ended, left))
    (hn : lines.length ≤ n) :
    steps host ended (List.replicate n closingLine) = pure ⟨.base, ended.reply⟩ := by
  obtain ⟨⟨levels, bottom⟩, reply⟩ := ended
  have hdepth : levels.length + 1 ≤ 1 + lines.length := depth_steps_le hended
  have hbottom : bottom = .base := bottom_steps hended
  rw [steps_closingLines hkeep, List.drop_eq_nil_of_le (by omega), hbottom]
  rfl

/-! ### One script behind another -/

/-- A script, then lines `END`, and then another script. -/
def closedBefore (first : Text) (n : Nat) (second : Text) : Text :=
  first ++ '\n' :: ((List.replicate n (closingLine ++ ['\n'])).flatten ++ second)

theorem directiveLines_closedBefore (first : Text) (n : Nat) (second : Text) :
    directiveLines (closedBefore first n second) =
      directiveLines first ++ (List.replicate n closingLine ++ directiveLines second) := by
  have hclosing : directiveLines closingLine = [closingLine] := by decide
  have hlines : ∀ n, directiveLines ((List.replicate n (closingLine ++ ['\n'])).flatten ++ second) =
      List.replicate n closingLine ++ directiveLines second := by
    intro n
    induction n with
    | zero => rfl
    | succ n ih =>
      rw [List.replicate_succ, List.flatten_cons, List.append_assoc, List.append_assoc,
        List.singleton_append, directiveLines_append_newline, hclosing, ih]
      rfl
  rw [closedBefore, directiveLines_append_newline, hlines]

/-- With enough closing lines between them, two scripts run one after the other. -/
theorem steps_closedBefore (hkeep : host.substitute closingLine = pure closingLine)
    (first second : Text) {n : Nat} (hn : (directiveLines first).length ≤ n) :
    steps host .start (directiveLines (closedBefore first n second)) =
      steps host .start (directiveLines first) >>= fun ended =>
        steps host .start (directiveLines second) >>= fun next => pure (next.behind ended.reply) := by
  rw [directiveLines_closedBefore, steps_append]
  -- How deep the first script can have got is known only of the ends it really comes to.
  refine Effect.bind_congr_of_gives fun ended hgives => ?_
  obtain ⟨state, left, hended⟩ := hgives
  rw [steps_append, steps_closingLines_of_ended hkeep hended hn, pure_bind, ← steps_behind]
  simp [Progress.behind, Progress.start]

end Script

/-! ### Sessions -/

namespace Session

open Script

theorem substitute_closingLine : host.substitute closingLine = pure closingLine := by
  funext start
  obtain ⟨session, draws⟩ := start
  have hplain : session.expand closingLine = (closingLine, session) := by
    unfold expand
    rw [Placeholder.expand_of_not_mem _ _ (by decide)]
  show (Except.ok (session.expand closingLine).1, ((session.expand closingLine).2, draws)) = _
  rw [hplain]
  rfl

/-- **A script with enough lines `END` behind it leaves nothing to the next one but the
session.**  Run a script, as many lines `END` as it has lines that count or more, and another
script as one: the session is the one that the two leave when they are run one after the
other, drawing from the same numbers, and the reply before it is trimmed is that of the first
followed by that of the second.  The second starts outside all blocks. -/
theorem scripts_run_in_turn (first second : Text) {n : Nat}
    (hn : (directiveLines first).length ≤ n) (start : Session × Draws) :
    ∃ ended ended' between final,
      Effect.outcome (steps host .start (directiveLines first)) start = (.ok ended, between) ∧
      Effect.outcome (steps host .start (directiveLines second)) between = (.ok ended', final) ∧
      Effect.outcome (steps host .start
          (directiveLines first ++ List.replicate n closingLine)) start =
        (.ok ⟨.base, ended.reply⟩, between) ∧
      Effect.outcome (steps host .start (directiveLines (closedBefore first n second))) start =
        (.ok ⟨ended'.nesting, ended.reply ++ ended'.reply⟩, final) ∧
      (Session.run first).run start = (ended.reply.trim, between) ∧
      (Session.run second).run between = (ended'.reply.trim, final) ∧
      (Session.run (closedBefore first n second)).run start =
        ((ended.reply ++ ended'.reply).trim, final) := by
  have htotal : ∀ script start, ∃ ended left,
      Effect.outcome (steps host .start (directiveLines script)) start = (.ok ended, left) :=
    fun script => each_steps Effect.sequential_succeeds reliable_host .start (directiveLines script)
  have hreply : ∀ {script start ended left},
      Effect.outcome (steps host .start (directiveLines script)) start = (.ok ended, left) →
      (Session.run script).run start = (ended.reply.trim, left) := by
    intro script start ended left hended
    show (Script.reply host script).run start = _
    rw [reply_eq, hended]
    rfl
  obtain ⟨ended, between, hended⟩ := htotal first start
  obtain ⟨ended', final, hended'⟩ := htotal second between
  have hclosed : Effect.outcome (steps host .start
      (directiveLines first ++ List.replicate n closingLine)) start =
        (.ok ⟨.base, ended.reply⟩, between) := by
    rw [steps_append, Effect.outcome_bind_of_ok hended,
      steps_closingLines_of_ended substitute_closingLine hended hn]
    rfl
  have hjoined : Effect.outcome (steps host .start
      (directiveLines (closedBefore first n second))) start =
        (.ok ⟨ended'.nesting, ended.reply ++ ended'.reply⟩, final) := by
    rw [steps_closedBefore substitute_closingLine first second hn,
      Effect.outcome_bind_of_ok hended, Effect.outcome_bind_of_ok hended']
    rfl
  exact ⟨ended, ended', between, final, hended, hended', hclosed, hjoined, hreply hended,
    hreply hended', hreply hjoined⟩

/-- Two blocks left open, the outer one skipped, and an `ELSE` that belongs to none. -/
def openScript : Text :=
  "ELSE\nSET x = 1\nIF x == 2\n\nIF {{setvar::y::1}}".toList

theorem scripts_run_in_turn_openScript :
    (directiveLines openScript).length ≤ 4 ∧
      ((Session.run (closedBefore openScript 4 "ELSE\nSAY {{getvar::x}}".toList)).run
          (.empty, ⟨fun _ => .zero, 0⟩)).2 =
        ((Session.run "ELSE\nSAY {{getvar::x}}".toList).run
          ((Session.run openScript).run (.empty, ⟨fun _ => .zero, 0⟩)).2).2 := by
  have hlength : (directiveLines openScript).length ≤ 4 := by decide +kernel
  obtain ⟨ended, ended', between, final, -, -, -, -, hfirst, hsecond, hjoined⟩ :=
    scripts_run_in_turn openScript "ELSE\nSAY {{getvar::x}}".toList hlength
      (.empty, ⟨fun _ => .zero, 0⟩)
  refine ⟨hlength, ?_⟩
  rw [hfirst, hsecond, hjoined]

end Session

end LineScript
