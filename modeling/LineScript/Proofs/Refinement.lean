/-
A run line by line performs the program the lines spell.

The interpreter sees a list of lines and keeps levels; `Program.run` sees a tree and
keeps none.  They agree for every host that leaves the keywords of the program's lines
as they are, and they agree call by call: with a host that lists its calls, the list is
part of the state that is left.

Two facts about blocks carry the proof, and each is an induction on the tree that takes
blocks and branches together.  In a skipped block every program leaves the progress as
it is and asks the host for nothing; the branches of a dead conditional do too, and
close it.  In an active block a program changes only the reply, and does to it what
performing the program does.  Between them stand the branches of a conditional that is
still awaiting one: those are the choice of a block, level for level.
-/
import LineScript.Proofs.Headed
import LineScript.Proofs.Program

namespace LineScript

/-- Replacing the placeholders of a line leaves its keyword as it is. -/
def KeepsKeyword {σ : Type} (host : Host σ) (line : Text) : Prop :=
  ∀ text, Effect.Gives (host.substitute line) text →
    Keyword.ofLine? text.trim = Keyword.ofLine? line

theorem KeepsKeyword.recorded {σ : Type} {host : Host σ} {line : Text}
    (h : KeepsKeyword host line) : KeepsKeyword host.recorded line :=
  fun text hgives => h text (Host.gives_of_gives_recorded hgives)

namespace Script

variable {σ : Type} {host : Host σ} {nesting outer : Nesting} {level : Level} {reply line : Text}

/-! ### One line in an active block

The equations of the single lines are turned to the tree: what a line does is said with the
parts from which performing a program is put together, `command`, `decideLine` and `touchLine`.
-/

private theorem step_plain (hactive : nesting.top.suppressed = false)
    (hkeep : KeepsKeyword host line)
    (hline : Keyword.ofLine? line = none) :
    step host ⟨nesting, reply⟩ line =
      host.substitute line >>= fun replaced =>
        command host reply replaced.trim >>= fun reply => pure ⟨nesting, reply⟩ := by
  rw [step_of_active host hactive]
  refine Effect.bind_congr_of_gives fun replaced hgives => ?_
  rw [carryOut_of_none host ((hkeep replaced hgives).trans hline)]

/-- The head of a conditional opens a block at the level its condition decides. -/
private theorem step_head (hactive : nesting.top.suppressed = false)
    (hkeep : KeepsKeyword host line)
    (hline : Keyword.ofLine? line = some .opening) :
    step host ⟨nesting, reply⟩ line =
      decideLine host line >>= fun taken => pure ⟨nesting.push (.branch taken), reply⟩ := by
  rw [step_of_active host hactive, decideLine, bind_assoc]
  refine Effect.bind_congr_of_gives fun replaced hgives => ?_
  rw [carryOut_of_opening host ((hkeep replaced hgives).trans hline)]
  rfl

/-- After a block that was taken, the line of another branch is only touched. -/
private theorem step_after_taken (hkeep : KeepsKeyword host line)
    (hline : Keyword.ofLine? line = some .elseIf ∨ Keyword.ofLine? line = some .otherwise) :
    step host ⟨outer.push (.branch true), reply⟩ line =
      touchLine host line >>= fun _ => pure ⟨outer.push .dead, reply⟩ := by
  rw [step_of_active host rfl, touchLine, bind_assoc]
  refine Effect.bind_congr_of_gives fun replaced hgives => ?_
  rcases hline with hline | hline
  · rw [carryOut_of_elseIf host ((hkeep replaced hgives).trans hline)]
    exact enterBranch_of_decided host reply _ _ (Or.inr rfl)
  · rw [carryOut_of_otherwise host ((hkeep replaced hgives).trans hline)]
    exact enterBranch_of_decided host reply _ _ (Or.inr rfl)

private theorem step_closing_active (hlevel : level.suppressed = false)
    (hkeep : KeepsKeyword host line)
    (hline : Keyword.ofLine? line = some .closing) :
    step host ⟨outer.push level, reply⟩ line =
      touchLine host line >>= fun _ => pure ⟨outer, reply⟩ := by
  have htop : (Progress.mk (outer.push level) reply).nesting.top.suppressed = false := hlevel
  rw [step_of_active host htop, touchLine, bind_assoc]
  refine Effect.bind_congr_of_gives fun replaced hgives => ?_
  rw [carryOut_of_closing host ((hkeep replaced hgives).trans hline)]
  rfl

/-! ### One line in a skipped block -/

private theorem step_skipped_plain (hskipped : nesting.top.suppressed = true)
    (hline : Keyword.ofLine? line = none) :
    step host ⟨nesting, reply⟩ line = pure ⟨nesting, reply⟩ := by
  rw [step_of_suppressed host hskipped, passOver_of_none host hline]

private theorem step_skipped_head (hskipped : nesting.top.suppressed = true)
    (hline : Keyword.ofLine? line = some .opening) :
    step host ⟨nesting, reply⟩ line = pure ⟨nesting.push .dead, reply⟩ := by
  rw [step_of_suppressed host hskipped, passOver_of_opening host hline]
  rfl

private theorem step_skipped_closing (hlevel : level.suppressed = true)
    (hline : Keyword.ofLine? line = some .closing) :
    step host ⟨outer.push level, reply⟩ line = pure ⟨outer, reply⟩ := by
  have htop : (Progress.mk (outer.push level) reply).nesting.top.suppressed = true := hlevel
  rw [step_of_suppressed host htop, passOver_of_closing host hline]
  rfl

private theorem step_dead_branch
    (hline : Keyword.ofLine? line = some .elseIf ∨ Keyword.ofLine? line = some .otherwise) :
    step host ⟨outer.push .dead, reply⟩ line = pure ⟨outer.push .dead, reply⟩ := by
  have hawaits : (Progress.mk (outer.push .dead) reply).nesting.awaitsBranch = false :=
    Bool.and_false _
  rw [step_of_suppressed host rfl]
  rcases hline with hline | hline
  · rw [passOver_of_unawaited host hline hawaits]
    exact enterBranch_of_decided host reply _ _ (Or.inr rfl)
  · rw [passOver_of_otherwise host hline]
    exact enterBranch_of_decided host reply _ _ (Or.inr rfl)

/-- While a branch is awaited, an `ELSE IF` is decided by its condition. -/
private theorem step_awaited_elseIf (hactive : outer.top.suppressed = false)
    (hkeep : KeepsKeyword host line) (hline : Keyword.ofLine? line = some .elseIf) :
    step host ⟨outer.push (.branch false), reply⟩ line =
      decideLine host line >>= fun taken => pure ⟨outer.push (.branch taken), reply⟩ := by
  have hawaits : (outer.push (.branch false)).awaitsBranch = true := by
    show (!outer.top.suppressed && true) = true
    rw [hactive]
    rfl
  rw [step_of_suppressed host rfl, passOver_of_awaited host hline hawaits, decideLine, bind_assoc]
  refine Effect.bind_congr_of_gives fun replaced hgives => ?_
  rw [branchCondition_of_elseIf ((hkeep replaced hgives).trans hline)]
  exact enterBranch_of_awaiting host reply _ _ hactive rfl

/-- While a branch is awaited, an `ELSE` is taken as it stands. -/
private theorem step_awaited_otherwise (hactive : outer.top.suppressed = false)
    (hline : Keyword.ofLine? line = some .otherwise) :
    step host ⟨outer.push (.branch false), reply⟩ line =
      pure ⟨outer.push (.branch true), reply⟩ := by
  rw [step_of_suppressed host rfl, passOver_of_otherwise host hline]
  exact enterBranch_of_unconditional host reply _ hactive rfl

end Script

/-! ### Blocks that are skipped

Nothing is asked of the levels but that the innermost one is suppressed.  So the same lemma
serves for the blocks in front of the chosen one, for those behind it, and for all that is
nested in them.
-/

section Blocks

open Script

variable {σ : Type} (host : Host σ)

mutual

/-- A program in a skipped block does nothing at all. -/
theorem Program.steps_skipped (program : Program) (nesting : Nesting) (reply : Text)
    (h : nesting.top.suppressed = true) :
    steps host ⟨nesting, reply⟩ program.lines = pure ⟨nesting, reply⟩ := by
  cases program with
  | done => rfl
  | plain line rest =>
    rw [Program.lines, steps_cons, step_skipped_plain h line.keyword_eq, pure_bind]
    exact rest.steps_skipped nesting reply h
  | conditional head body branches rest =>
    rw [Program.lines, steps_cons, step_skipped_head h head.keyword_eq, pure_bind,
      steps_append, body.steps_skipped _ reply rfl, pure_bind,
      steps_append, branches.steps_dead nesting reply, pure_bind]
    exact rest.steps_skipped nesting reply h

/-- The branches of a dead conditional do nothing but close it. -/
theorem Branches.steps_dead (branches : Branches) (outer : Nesting) (reply : Text) :
    steps host ⟨outer.push .dead, reply⟩ branches.lines = pure ⟨outer, reply⟩ := by
  cases branches with
  | closing line =>
    rw [Branches.lines, steps_cons, step_skipped_closing rfl line.keyword_eq, pure_bind]
    rfl
  | elseIf line body others =>
    rw [Branches.lines, steps_cons, step_dead_branch (Or.inl line.keyword_eq), pure_bind,
      steps_append, body.steps_skipped _ reply rfl, pure_bind]
    exact others.steps_dead outer reply
  | otherwise line body last =>
    rw [Branches.lines, steps_cons, step_dead_branch (Or.inr line.keyword_eq), pure_bind,
      steps_append, body.steps_skipped _ reply rfl, pure_bind, steps_cons,
      step_skipped_closing rfl last.keyword_eq, pure_bind]
    rfl

end

/-! ### Blocks that are performed -/

/-- Once a block was taken, the rest of its conditional touches one line and closes. -/
theorem Branches.steps_taken (branches : Branches) (outer : Nesting) (reply : Text)
    (hkeep : KeepsKeyword host branches.firstLine) :
    steps host ⟨outer.push (.branch true), reply⟩ branches.lines =
      touchLine host branches.firstLine >>= fun _ => pure ⟨outer, reply⟩ := by
  cases branches with
  | closing line =>
    have hline : KeepsKeyword host line.text := hkeep
    rw [Branches.lines, steps_cons, step_closing_active rfl hline line.keyword_eq, bind_assoc]
    rfl
  | elseIf line body others =>
    have hline : KeepsKeyword host line.text := hkeep
    rw [Branches.lines, steps_cons, step_after_taken hline (Or.inl line.keyword_eq), bind_assoc]
    refine bind_congr fun _ => ?_
    rw [pure_bind, steps_append, body.steps_skipped host _ reply rfl, pure_bind]
    exact others.steps_dead host outer reply
  | otherwise line body last =>
    have hline : KeepsKeyword host line.text := hkeep
    rw [Branches.lines, steps_cons, step_after_taken hline (Or.inr line.keyword_eq), bind_assoc]
    refine bind_congr fun _ => ?_
    rw [pure_bind, steps_append, body.steps_skipped host _ reply rfl, pure_bind, steps_cons,
      step_skipped_closing rfl last.keyword_eq, pure_bind]
    rfl

theorem Branches.firstLine_mem (branches : Branches) : branches.firstLine ∈ branches.lines := by
  cases branches <;> simp [Branches.lines, Branches.firstLine]

mutual

/-- A program in an active block does to the reply what performing it does, and
leaves the nesting as it was. -/
theorem Program.steps_active (program : Program) (nesting : Nesting) (reply : Text)
    (hactive : nesting.top.suppressed = false)
    (hkeep : ∀ line ∈ program.lines, KeepsKeyword host line) :
    steps host ⟨nesting, reply⟩ program.lines =
      program.perform host reply >>= fun reply => pure ⟨nesting, reply⟩ := by
  cases program with
  | done => rfl
  | plain line rest =>
    simp only [Program.lines, List.forall_mem_cons] at hkeep
    rw [Program.lines, Program.perform, steps_cons,
      step_plain hactive hkeep.1 line.keyword_eq, bind_assoc, bind_assoc]
    refine bind_congr fun replaced => ?_
    rw [bind_assoc, bind_assoc]
    refine bind_congr fun reply => ?_
    rw [pure_bind]
    exact rest.steps_active nesting reply hactive hkeep.2
  | conditional head body branches rest =>
    simp only [Program.lines, List.forall_mem_cons, List.forall_mem_append] at hkeep
    obtain ⟨hhead, hbody, hbranches, hrest⟩ := hkeep
    rw [Program.lines, Program.perform, steps_cons, step_head hactive hhead head.keyword_eq,
      bind_assoc, bind_assoc]
    refine bind_congr fun taken => ?_
    rw [pure_bind]
    cases taken with
    | true =>
      rw [if_pos rfl, steps_append, body.steps_active _ reply rfl hbody, bind_assoc, bind_assoc]
      refine bind_congr fun reply => ?_
      rw [pure_bind, steps_append,
        branches.steps_taken host nesting reply (hbranches _ branches.firstLine_mem),
        bind_assoc, bind_assoc]
      refine bind_congr fun _ => ?_
      rw [pure_bind]
      exact rest.steps_active nesting reply hactive hrest
    | false =>
      rw [if_neg Bool.false_ne_true, steps_append, body.steps_skipped host _ reply rfl, pure_bind,
        steps_append, branches.steps_awaiting nesting reply hactive hbranches, bind_assoc,
        bind_assoc]
      refine bind_congr fun reply => ?_
      rw [pure_bind]
      exact rest.steps_active nesting reply hactive hrest

/-- The branches of a conditional that still awaits one choose a block, and close it. -/
theorem Branches.steps_awaiting (branches : Branches) (outer : Nesting) (reply : Text)
    (hactive : outer.top.suppressed = false)
    (hkeep : ∀ line ∈ branches.lines, KeepsKeyword host line) :
    steps host ⟨outer.push (.branch false), reply⟩ branches.lines =
      branches.choose host reply >>= fun reply => pure ⟨outer, reply⟩ := by
  cases branches with
  | closing line =>
    rw [Branches.lines, Branches.choose, steps_cons, step_skipped_closing rfl line.keyword_eq,
      pure_bind, pure_bind]
    rfl
  | elseIf line body others =>
    simp only [Branches.lines, List.forall_mem_cons, List.forall_mem_append] at hkeep
    obtain ⟨hline, hbody, hothers⟩ := hkeep
    rw [Branches.lines, Branches.choose, steps_cons,
      step_awaited_elseIf hactive hline line.keyword_eq, bind_assoc, bind_assoc]
    refine bind_congr fun taken => ?_
    rw [pure_bind]
    cases taken with
    | true =>
      rw [if_pos rfl, steps_append, body.steps_active _ reply rfl hbody, bind_assoc, bind_assoc]
      refine bind_congr fun reply => ?_
      rw [pure_bind, others.steps_taken host outer reply (hothers _ others.firstLine_mem),
        bind_assoc]
      rfl
    | false =>
      rw [if_neg Bool.false_ne_true, steps_append, body.steps_skipped host _ reply rfl, pure_bind]
      exact others.steps_awaiting outer reply hactive hothers
  | otherwise line body last =>
    simp only [Branches.lines, List.forall_mem_cons, List.forall_mem_append] at hkeep
    obtain ⟨-, hbody, hlast, -⟩ := hkeep
    rw [Branches.lines, Branches.choose, steps_cons,
      step_awaited_otherwise hactive line.keyword_eq, pure_bind, steps_append,
      body.steps_active _ reply rfl hbody, bind_assoc, bind_assoc]
    refine bind_congr fun reply => ?_
    rw [pure_bind, steps_cons, step_closing_active rfl hlast last.keyword_eq, bind_assoc,
      bind_assoc]
    rfl

end

/-- A run of the lines of a program is a run of the program. -/
theorem run_of_directiveLines_eq (program : Program) {script : Text}
    (hlines : directiveLines script = program.lines)
    (hkeep : ∀ line ∈ program.lines, KeepsKeyword host line) :
    Script.run host script = program.run host := by
  unfold Script.run Program.run
  rw [hlines, Progress.start, program.steps_active host .base [] rfl hkeep, bind_assoc]
  rfl

/-- **The interpreter performs the program that its lines spell**, for every host that keeps
the keywords of these lines: the run gives the same reply or the same failure, leaves the
host in the same state, and makes the same calls in the same order. -/
theorem run_refines_program (program : Program) {script : Text}
    (hlines : directiveLines script = program.lines)
    (hkeep : ∀ line ∈ program.lines, KeepsKeyword host line) :
    Script.run host script = program.run host ∧
    ∀ (calls : List Call) (state : σ),
      Effect.outcome (Script.run host.recorded script) (calls, state) =
        Effect.outcome (program.run host.recorded) (calls, state) := by
  have hrecorded : ∀ line ∈ program.lines, KeepsKeyword host.recorded line :=
    fun line hmem => (hkeep line hmem).recorded
  refine ⟨run_of_directiveLines_eq host program hlines hkeep, fun calls state => ?_⟩
  rw [run_of_directiveLines_eq host.recorded program hlines hrecorded]

end Blocks

/-! ### Programs for sessions

For a session the promise about keywords can be read off the program.  What is to be kept from
happening is that a condition vanishes, so there has to be something in it that no replacing
removes.
-/

/-- A session keeps the keyword of a line that has something solid behind an `IF` or an
`ELSE IF`, and placeholders only behind a keyword. -/
theorem Session.keepsKeyword_host {line : Text} (htrim : line.trim = line)
    (hheaded : Text.occursIn Placeholder.opener line = true → Headed line)
    (hopening : Keyword.ofLine? line = some .opening →
      ∃ piece ∈ Placeholder.pieces (line.drop 3), Placeholder.isSolid piece = true)
    (helseIf : Keyword.ofLine? line = some .elseIf →
      ∃ piece ∈ Placeholder.pieces (line.drop 8), Placeholder.isSolid piece = true) :
    KeepsKeyword host line := by
  rintro text ⟨start, left, hreplaced⟩
  obtain rfl : (start.1.expand line).1 = text := Except.ok.inj (Prod.mk.inj hreplaced).1
  by_cases hif : Keyword.ofLine? line = some .opening
  · rw [start.1.keyword_expand_opening hif, if_neg (start.1.trim_expand_ne_nil (hopening hif)), hif]
  · by_cases hbranch : Keyword.ofLine? line = some .elseIf
    · rw [start.1.keyword_expand_elseIf hbranch,
        if_neg (start.1.trim_expand_ne_nil (helseIf hbranch)), hbranch]
    · exact start.1.keyword_expand_other htrim hheaded hif hbranch

/-- A conditional with three branches, the second of which has a conditional in it. -/
def greetingProgram : Program :=
  .conditional ⟨"IF {{getvar::mood}} == calm".toList, by decide +kernel⟩
    (.plain ⟨"SAY {{lastMessage}}".toList, by decide +kernel⟩ .done)
    (.elseIf ⟨"ELSE IF {{getvar::mood}} HAS cross".toList, by decide +kernel⟩
      (.conditional ⟨"IF RANDOM < {{getvar::odds}}".toList, by decide +kernel⟩
        (.plain ⟨"SET mood = {{getvar::odds}}".toList, by decide +kernel⟩ .done)
        (.closing ⟨"END".toList, by decide +kernel⟩) .done)
      (.otherwise ⟨"ELSE".toList, by decide +kernel⟩
        (.plain ⟨"SAY nothing".toList, by decide +kernel⟩ .done)
        ⟨"END".toList, by decide +kernel⟩))
    .done

theorem run_refines_greetingProgram :
    Script.run Session.host greetingProgram.text = greetingProgram.run Session.host ∧
    ∀ (calls : List Call) (start : Session × Draws),
      Effect.outcome (Script.run Session.host.recorded greetingProgram.text) (calls, start) =
        Effect.outcome (greetingProgram.run Session.host.recorded) (calls, start) := by
  have hlines : ∀ line ∈ greetingProgram.lines, line ≠ [] ∧ line.trim = line ∧ '\n' ∉ line := by
    decide +kernel
  have hheaded : ∀ line ∈ greetingProgram.lines,
      Text.occursIn Placeholder.opener line = true → Session.Headed line := by decide +kernel
  have hopening : ∀ line ∈ greetingProgram.lines, Keyword.ofLine? line = some .opening →
      ∃ piece ∈ Placeholder.pieces (line.drop 3), Placeholder.isSolid piece = true := by
    decide +kernel
  have helseIf : ∀ line ∈ greetingProgram.lines, Keyword.ofLine? line = some .elseIf →
      ∃ piece ∈ Placeholder.pieces (line.drop 8), Placeholder.isSolid piece = true := by
    decide +kernel
  refine run_refines_program Session.host greetingProgram
    (Script.directiveLines_flatMap hlines) fun line hmem => ?_
  exact Session.keepsKeyword_host (hlines line hmem).2.1 (hheaded line hmem) (hopening line hmem)
    (helseIf line hmem)

end LineScript
