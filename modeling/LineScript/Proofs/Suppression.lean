/-
Lines of a skipped block.

A line that is met while the innermost level is suppressed asks the host for nothing and
adds nothing to the reply; all it can do is open, switch or close a block.  The one
exception is an `ELSE IF` that can still wake its block, and that is told from the
levels alone: the block around is active and no branch has been taken.

The base of a run is never suppressed, so there is always a level around a suppressed one,
and no marker can be said.  What becomes of the nesting then depends on the keyword of the line
and on nothing else of it.  Two runs whose lines differ only where the first one is
suppressed, and there keep their keywords, go through the same progress line by line.
-/
import LineScript.Proofs.Levels

namespace LineScript

namespace Nesting

variable {nesting : Nesting}

/-- A block can still take a branch: the block around it is active and none of its own
branches has been taken. -/
def Wakeable (nesting : Nesting) : Prop :=
  ∃ parent, nesting.parent? = some parent ∧ parent.suppressed = false ∧
    nesting.top.matched = false

theorem awaitsBranch_iff : nesting.awaitsBranch = true ↔ nesting.Wakeable := by
  unfold awaitsBranch Wakeable
  cases nesting.parent? with
  | none => simp
  | some parent => simp

theorem not_wakeable_push {outer : Nesting} {level : Level} :
    ¬(outer.push level).Wakeable ↔ outer.top.suppressed = true ∨ level.matched = true := by
  rw [← awaitsBranch_iff]
  show ¬(!outer.top.suppressed && !level.matched) = true ↔ _
  cases outer.top.suppressed <;> cases level.matched <;> decide

end Nesting

namespace Script

variable {σ : Type} {host : Host σ} {progress : Progress} {line : Text}

/-! ### What a line of a skipped block can do -/

/-- Where the level may still be switched by an `ELSE`: taken when no branch has been
taken in an active block, dead otherwise. -/
def switched (outer : Nesting) (level : Level) : Level :=
  if outer.top.suppressed || level.matched then .dead else .branch true

/-- The nesting after a line of a skipped block that asks for nothing. -/
def passed (outer : Nesting) (level : Level) : Option Keyword → Nesting
  | some .opening => (outer.push level).push .dead
  | some .elseIf => outer.push .dead
  | some .otherwise => outer.push (switched outer level)
  | some .closing => outer
  | none => outer.push level

private theorem enterBranch_none (outer : Nesting) (level : Level) (reply marker : Text) :
    enterBranch host ⟨outer.push level, reply⟩ marker none =
      pure ⟨outer.push (switched outer level), reply⟩ := by
  unfold switched
  by_cases hdecided : outer.top.suppressed = true ∨ level.matched = true
  · rw [enterBranch_of_decided host reply marker none hdecided,
      if_pos (by simpa using hdecided)]
  · simp only [not_or, Bool.not_eq_true] at hdecided
    rw [enterBranch_of_unconditional host reply marker hdecided.1 hdecided.2,
      if_neg (by simp [hdecided])]

/-- A line of a skipped block asks for nothing and says nothing, unless it can wake the
block.  Where the nesting goes is told by the line's keyword. -/
theorem passOver_eq_pure (outer : Nesting) (level : Level) (reply : Text)
    (hquiet : ¬(Keyword.ofLine? line = some .elseIf ∧ (outer.push level).Wakeable)) :
    passOver host ⟨outer.push level, reply⟩ line =
      pure ⟨passed outer level (Keyword.ofLine? line), reply⟩ := by
  rcases hkeyword : Keyword.ofLine? line with _ | _ | _ | _ | _
  · rw [passOver_of_none host hkeyword]
    rfl
  · rw [passOver_of_opening host hkeyword]
    rfl
  · have hasleep : ¬(outer.push level).Wakeable := fun hwake => hquiet ⟨hkeyword, hwake⟩
    have hawaits : (outer.push level).awaitsBranch = false := by
      rw [← Bool.not_eq_true, Nesting.awaitsBranch_iff]
      exact hasleep
    have hdecided := Nesting.not_wakeable_push.mp hasleep
    rw [passOver_of_unawaited host hkeyword hawaits]
    exact enterBranch_of_decided host reply _ _ hdecided
  · rw [passOver_of_otherwise host hkeyword]
    exact enterBranch_none outer level reply elseMarker
  · rw [passOver_of_closing host hkeyword]
    rfl

/-- A step from a suppressed level leaves the host and the reply as they are, and where it
leads is told by the levels and the line's keyword. -/
theorem step_eq_pure (host : Host σ) (hbottom : progress.nesting.bottom.suppressed = false)
    (hskipped : progress.nesting.top.suppressed = true) :
    ∃ outer level, ∀ line,
      ¬(Keyword.ofLine? line = some .elseIf ∧ progress.nesting.Wakeable) →
      step host progress line =
        pure { progress with nesting := passed outer level (Keyword.ofLine? line) } := by
  obtain ⟨nesting, reply⟩ := progress
  have hblock : nesting.top ≠ nesting.bottom := by
    intro hsame
    rw [hsame, hbottom] at hskipped
    cases hskipped
  obtain ⟨outer, level, rfl⟩ := Nesting.eq_push_of_top_ne hblock
  refine ⟨outer, level, fun line hquiet => ?_⟩
  rw [step_of_suppressed host hskipped]
  exact passOver_eq_pure outer level reply hquiet

theorem step_congr_keyword {other : Text} (hbottom : progress.nesting.bottom.suppressed = false)
    (hskipped : progress.nesting.top.suppressed = true)
    (hquiet : ¬(Keyword.ofLine? line = some .elseIf ∧ progress.nesting.Wakeable))
    (hkeyword : Keyword.ofLine? line = Keyword.ofLine? other) :
    step host progress line = step host progress other := by
  obtain ⟨outer, level, hstep⟩ := step_eq_pure host hbottom hskipped
  have hquiet' : ¬(Keyword.ofLine? other = some .elseIf ∧ progress.nesting.Wakeable) := by
    rw [← hkeyword]
    exact hquiet
  rw [hstep line hquiet, hstep other hquiet', hkeyword]

/-! ### Two runs

The promise about the two lists speaks of the run of the first one alone.  As long as the
lines so far have led both to the same progress, it says as much of the second, and so the
induction goes through with nothing asked of the second run.
-/

/-- Two lists of lines have the same length and differ only where the run of the first
is in a skipped block; lines that differ there have the same keyword and cannot wake the
block. -/
structure DifferWhereSkipped (host : Host σ) (progress : Progress) (state : σ)
    (first second : List Text) : Prop where
  length_eq : first.length = second.length
  skipped : ∀ index line other, first[index]? = some line → second[index]? = some other →
    line ≠ other → ∀ reached left,
      Effect.outcome (steps host progress (first.take index)) state = (.ok reached, left) →
      reached.nesting.top.suppressed = true ∧ Keyword.ofLine? line = Keyword.ofLine? other ∧
        ¬(Keyword.ofLine? line = some .elseIf ∧ reached.nesting.Wakeable)

variable {state left : σ} {next : Progress} {other : Text} {first second : List Text}

theorem DifferWhereSkipped.step_eq (hbottom : progress.nesting.bottom.suppressed = false)
    (h : DifferWhereSkipped host progress state (line :: first) (other :: second)) :
    step host progress line = step host progress other := by
  by_cases hsame : line = other
  · rw [hsame]
  · obtain ⟨hskipped, hkeyword, hquiet⟩ := h.skipped 0 line other rfl rfl hsame progress state rfl
    exact step_congr_keyword hbottom hskipped hquiet hkeyword

theorem DifferWhereSkipped.rest
    (h : DifferWhereSkipped host progress state (line :: first) (other :: second))
    (hstep : Effect.outcome (step host progress line) state = (.ok next, left)) :
    DifferWhereSkipped host next left first second := by
  refine ⟨Nat.succ.inj h.length_eq, ?_⟩
  intro index one another hone hanother hdiffer reached final hreached
  refine h.skipped (index + 1) one another hone hanother hdiffer reached final ?_
  rw [List.take_succ_cons, steps_cons, Effect.outcome_bind_of_ok hstep]
  exact hreached

/-- The base is active all along, since no line moves it. -/
theorem DifferWhereSkipped.outcome_steps_eq (hbottom : progress.nesting.bottom.suppressed = false)
    (h : DifferWhereSkipped host progress state first second) :
    Effect.outcome (steps host progress first) state =
      Effect.outcome (steps host progress second) state := by
  induction first generalizing second progress state with
  | nil =>
    obtain rfl : second = [] := List.length_eq_zero_iff.mp h.length_eq.symm
    rfl
  | cons line rest ih =>
    rcases second with _ | ⟨other, others⟩
    · cases h.length_eq
    · rw [steps_cons, steps_cons, ← h.step_eq hbottom, Effect.outcome_bind, Effect.outcome_bind]
      rcases hstep : Effect.outcome (step host progress line) state with ⟨_ | next, left⟩
      · rfl
      · obtain ⟨keyword?, hmove⟩ := move_of_step hstep
        exact ih (hmove.bottom_eq ▸ hbottom) (h.rest hstep)

/-- One line that is met in a skipped block may be replaced by another. -/
theorem differWhereSkipped_of_line {before after : List Text}
    (h : ∀ reached left, Effect.outcome (steps host progress before) state = (.ok reached, left) →
      reached.nesting.top.suppressed = true ∧ Keyword.ofLine? line = Keyword.ofLine? other ∧
        ¬(Keyword.ofLine? line = some .elseIf ∧ reached.nesting.Wakeable)) :
    DifferWhereSkipped host progress state (before ++ line :: after) (before ++ other :: after) := by
  refine ⟨by simp, ?_⟩
  intro index one another hone hanother hdiffer reached left hreached
  by_cases hbefore : index < before.length
  · rw [List.getElem?_append_left hbefore] at hone hanother
    exact absurd (Option.some.inj (hone.symm.trans hanother)) hdiffer
  · have hafter : before.length ≤ index := Nat.le_of_not_lt hbefore
    rw [List.getElem?_append_right hafter] at hone hanother
    by_cases hhere : index = before.length
    · subst hhere
      rw [Nat.sub_self] at hone hanother
      obtain rfl : line = one := Option.some.inj hone
      obtain rfl : other = another := Option.some.inj hanother
      rw [List.take_left] at hreached
      exact h reached left hreached
    · obtain ⟨offset, hoffset⟩ : ∃ offset, index - before.length = offset + 1 :=
        ⟨index - before.length - 1, by omega⟩
      rw [hoffset] at hone hanother
      exact absurd (Option.some.inj (hone.symm.trans hanother)) hdiffer

/-- **The lines of a skipped block are inert.**  Above an active base, and the base of every
run stays active, such a line calls nothing of the host and leaves the host and the reply as
they are, unless it can wake its block.  Lists of lines that differ only in such lines
therefore go the same way, and so do the runs of scripts that have them: they give the same
result, leave the host in the same state and make the same calls in the same order. -/
theorem skipped_lines_inert (host : Host σ) :
    (∀ (lines : List Text) (start left : List Call × σ) (progress : Progress),
      Effect.outcome (steps host.recorded .start lines) start = (.ok progress, left) →
      progress.nesting.bottom.suppressed = false) ∧
    (∀ (progress : Progress) (line : Text) (calls : List Call) (state : σ),
      progress.nesting.bottom.suppressed = false → progress.nesting.top.suppressed = true →
      ¬(Keyword.ofLine? line = some .elseIf ∧ progress.nesting.Wakeable) →
      ∃ nesting, Effect.outcome (step host.recorded progress line) (calls, state) =
        (.ok { progress with nesting }, (calls, state))) ∧
    (∀ (start : List Call × σ) (first second : List Text),
      DifferWhereSkipped host.recorded .start start first second →
      Effect.outcome (steps host.recorded .start first) start =
        Effect.outcome (steps host.recorded .start second) start) ∧
    (∀ (start : List Call × σ) (script other : Text),
      DifferWhereSkipped host.recorded .start start (directiveLines script)
        (directiveLines other) →
      Effect.outcome (run host.recorded script) start =
        Effect.outcome (run host.recorded other) start) := by
  refine ⟨?_, ?_, fun start first second h => h.outcome_steps_eq rfl, ?_⟩
  · intro lines start left progress hreached
    rw [bottom_steps hreached]
    rfl
  · intro progress line calls state hbottom hskipped hquiet
    obtain ⟨outer, level, hstep⟩ := step_eq_pure host.recorded hbottom hskipped
    refine ⟨passed outer level (Keyword.ofLine? line), ?_⟩
    rw [hstep line hquiet]
    rfl
  · intro start script other h
    rw [run_eq, run_eq, Effect.outcome_bind, Effect.outcome_bind, h.outcome_steps_eq rfl]

/-- A branch that is not taken and would set a variable. -/
def skippingScript : Text :=
  "IF 1 == 2\nSAY {{setvar::x::1}}\nELSE\nSAY b\nEND".toList

/-- The same with another command in that branch. -/
def skippingScript' : Text :=
  "IF 1 == 2\nSET y = {{lastMessage}}\nELSE\nSAY b\nEND".toList

theorem skipped_lines_inert_skippingScript :
    (∃ nesting, Effect.outcome
        (step Session.host.recorded ⟨Nesting.base.push (.branch false), []⟩
          "SAY {{setvar::x::1}}".toList)
        ([], .empty, ⟨fun _ => .zero, 0⟩) =
      (.ok ⟨nesting, []⟩, ([], .empty, ⟨fun _ => .zero, 0⟩))) ∧
    DifferWhereSkipped Session.host.recorded .start ([], .empty, ⟨fun _ => .zero, 0⟩)
      (directiveLines skippingScript) (directiveLines skippingScript') ∧
    Effect.outcome (run Session.host.recorded skippingScript)
        ([], .empty, ⟨fun _ => .zero, 0⟩) =
      Effect.outcome (run Session.host.recorded skippingScript')
        ([], .empty, ⟨fun _ => .zero, 0⟩) := by
  have hfirst : directiveLines skippingScript =
      ["IF 1 == 2".toList] ++ "SAY {{setvar::x::1}}".toList ::
        ["ELSE".toList, "SAY b".toList, "END".toList] := by
    decide +kernel
  have hsecond : directiveLines skippingScript' =
      ["IF 1 == 2".toList] ++ "SET y = {{lastMessage}}".toList ::
        ["ELSE".toList, "SAY b".toList, "END".toList] := by
    decide +kernel
  have hopened : (Effect.outcome (steps Session.host.recorded .start ["IF 1 == 2".toList])
      ([], .empty, ⟨fun _ => .zero, 0⟩)).1.toOption.map Progress.nesting =
        some (Nesting.base.push (.branch false)) := by
    decide +kernel
  have hplain : Keyword.ofLine? "SAY {{setvar::x::1}}".toList = none := by decide +kernel
  have hplain' : Keyword.ofLine? "SET y = {{lastMessage}}".toList = none := by decide +kernel
  have hdiffer : DifferWhereSkipped Session.host.recorded .start
      ([], .empty, ⟨fun _ => .zero, 0⟩)
      (directiveLines skippingScript) (directiveLines skippingScript') := by
    rw [hfirst, hsecond]
    refine differWhereSkipped_of_line ?_
    rintro ⟨nesting, reply⟩ left hreached
    rw [hreached] at hopened
    obtain rfl : nesting = Nesting.base.push (.branch false) := Option.some.inj hopened
    rw [hplain, hplain']
    exact ⟨rfl, rfl, fun h => nomatch h.1⟩
  obtain ⟨-, hstep, -, hrun⟩ := skipped_lines_inert Session.host
  refine ⟨hstep ⟨Nesting.base.push (.branch false), []⟩ _ [] _ rfl rfl ?_, hdiffer,
    hrun _ _ _ hdiffer⟩
  rw [hplain]
  exact fun h => nomatch h.1

end Script

end LineScript
