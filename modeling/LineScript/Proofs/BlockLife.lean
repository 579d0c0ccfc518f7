/-
The life of a block.

A block is open from the line that opens it to the line that closes it, or to the end of
the run.  All that time it keeps its position on the stack of levels, counted from the
base: other blocks are opened above it and closed again, and nothing below it changes.  So
the successive levels of one block are those at one position, for as long as there is a
level there.

They pass through three stages and never go back.  First the block waits for its branch,
then it is in the branch it has taken, and then it is past it.  A step moves at most one
level on, and only when that level is innermost, which is read off the moves.  Nothing is
asked of the script: a second `ELSE`, or an `ELSE IF` behind one, only says again that the
block is past its branch.
-/
import LineScript.Proofs.Levels
import LineScript.Proofs.Suppression

namespace LineScript

namespace Level

/-! ### Stages -/

/-- How far a block has got: it waits for its branch (0), is in it (1) or is past it (2). -/
def stage (level : Level) : Nat :=
  if level.matched then (if level.suppressed then 2 else 1) else 0

private theorem stage_le_dead (level : Level) : level.stage ≤ Level.dead.stage := by
  obtain ⟨suppressed, matched⟩ := level
  cases suppressed <;> cases matched <;> decide

private theorem stage_of_unmatched {level : Level} (h : level.matched = false) :
    level.stage = 0 := by
  simp [stage, h]

/-- Levels of which none is a stage behind the one before are first waiting, then taken, then
dead. -/
private theorem eq_replicate_of_stages {levels : List Level}
    (hlevels : ∀ level ∈ levels,
      level = ⟨false, true⟩ ∨ level = ⟨true, false⟩ ∨ level = ⟨true, true⟩)
    (hstages : levels.IsChain fun earlier later => earlier.stage ≤ later.stage) :
    ∃ waiting taken past, levels =
      List.replicate waiting ⟨true, false⟩ ++
        (List.replicate taken ⟨false, true⟩ ++ List.replicate past ⟨true, true⟩) := by
  induction levels with
  | nil => exact ⟨0, 0, 0, rfl⟩
  | cons first rest ih =>
    rw [List.forall_mem_cons] at hlevels
    rw [List.isChain_cons] at hstages
    obtain ⟨hfirst, hrest⟩ := hlevels
    obtain ⟨hnext, hstages⟩ := hstages
    obtain ⟨waiting, taken, past, rfl⟩ := ih hrest hstages
    -- What comes first says which of the three runs can still come next.
    rcases hfirst with rfl | rfl | rfl
    · cases waiting with
      | succ waiting => exact absurd (hnext ⟨true, false⟩ rfl) (by decide)
      | zero => exact ⟨0, taken + 1, past, rfl⟩
    · exact ⟨waiting + 1, taken, past, rfl⟩
    · cases waiting with
      | succ waiting => exact absurd (hnext ⟨true, false⟩ rfl) (by decide)
      | zero =>
        cases taken with
        | succ taken => exact absurd (hnext ⟨false, true⟩ rfl) (by decide)
        | zero => exact ⟨0, 0, past + 1, rfl⟩

end Level

namespace Nesting

/-! ### Positions

A level is found again by its position, however many blocks are opened above it and closed.
A move touches the level at the top position only, or adds one above it.
-/

/-- The level at a position, counted from the base, which is at 0. -/
def at? (nesting : Nesting) (position : Nat) : Option Level :=
  nesting.frames.reverse[position]?

theorem at?_eq_none {nesting : Nesting} {position : Nat} (h : nesting.depth ≤ position) :
    nesting.at? position = none := by
  rw [at?, List.getElem?_eq_none]
  simpa [length_frames] using h

theorem at?_push (outer : Nesting) (level : Level) (position : Nat) :
    (outer.push level).at? position =
      if position = outer.depth then some level else outer.at? position := by
  have hlength : outer.frames.reverse.length = outer.depth := by simp [length_frames]
  rw [at?, at?, frames_push, List.reverse_cons]
  rcases Nat.lt_trichotomy position outer.depth with hlt | heq | hgt
  · rw [List.getElem?_append_left (by omega), if_neg (by omega)]
  · rw [List.getElem?_append_right (by omega), if_pos heq]
    simp [hlength, heq]
  · rw [List.getElem?_eq_none (by simp [length_frames]; omega),
      List.getElem?_eq_none (by omega), if_neg (by omega)]

theorem at?_pred_depth (nesting : Nesting) : nesting.at? (nesting.depth - 1) = some nesting.top := by
  obtain ⟨bottom, rfl⟩ | ⟨outer, level, rfl⟩ := nesting.eq_outside_or_push
  · rfl
  · simp [at?_push]

theorem WellFormed.level_of_at? {nesting : Nesting} {position : Nat} {level : Level}
    (h : nesting.WellFormed) (hposition : 0 < position) (hat : nesting.at? position = some level) :
    level = ⟨false, true⟩ ∨ level = ⟨true, false⟩ ∨ level = ⟨true, true⟩ := by
  obtain ⟨inner, rfl⟩ : ∃ inner, position = inner + 1 := ⟨position - 1, by omega⟩
  have hreverse : nesting.frames.reverse = nesting.bottom :: nesting.levels.reverse := by
    simp [frames]
  rw [at?, hreverse, List.getElem?_cons_succ] at hat
  refine h.above level ?_
  rw [frames, List.dropLast_concat]
  exact List.mem_reverse.mp (List.mem_of_getElem? hat)

/-- A move takes no level back a stage. -/
theorem Move.stage_le {keyword? : Option Keyword} {before after : Nesting} {position : Nat}
    {level later : Level} (h : Move keyword? before after)
    (hbefore : before.at? position = some level) (hafter : after.at? position = some later) :
    level.stage ≤ later.stage := by
  -- Unless it is on top, a level stays as it is.
  have hsame : ∀ {nesting : Nesting}, nesting.at? position = some level →
      nesting.at? position = some later → level.stage ≤ later.stage := by
    intro nesting hlevel hlater
    rw [hlevel] at hlater
    cases hlater
    exact Nat.le_refl _
  have hopened : ∀ opened, (before.push opened).at? position = some later →
      level.stage ≤ later.stage := by
    intro opened hpushed
    rw [at?_push] at hpushed
    split at hpushed
    · rename_i htop
      rw [at?_eq_none (Nat.le_of_eq htop.symm)] at hbefore
      cases hbefore
    · exact hsame hbefore hpushed
  have hreplaced : ∀ (outer : Nesting) (old new : Level), old.stage ≤ new.stage →
      (outer.push old).at? position = some level → (outer.push new).at? position = some later →
      level.stage ≤ later.stage := by
    intro outer old new hstage hold hnew
    rw [at?_push] at hold hnew
    split at hold
    · rename_i htop
      rw [if_pos htop] at hnew
      cases hold
      cases hnew
      exact hstage
    · rename_i htop
      rw [if_neg htop] at hnew
      exact hsame hold hnew
  cases h with
  | plain => exact hsame hbefore hafter
  | opening _ taken => exact hopened _ hafter
  | openingDead => exact hopened _ hafter
  | stray => exact hsame hbefore hafter
  | deciding keyword outer old taken _ _ hunmatched =>
    refine hreplaced outer old (.branch taken) ?_ hbefore hafter
    rw [Level.stage_of_unmatched hunmatched]
    exact Nat.zero_le _
  | ending keyword outer old => exact hreplaced outer old .dead old.stage_le_dead hbefore hafter
  | closing =>
    obtain ⟨bottom, rfl⟩ | ⟨outer, top, rfl⟩ := before.eq_outside_or_push
    · exact hsame hbefore hafter
    · have hinner : outer.at? position = some later := hafter
      rw [at?_push] at hbefore
      split at hbefore
      · rename_i htop
        rw [at?_eq_none (Nat.le_of_eq htop.symm)] at hinner
        cases hinner
      · exact hsame hbefore hinner

end Nesting

namespace Script

open Nesting

variable {σ : Type} {host : Host σ} {progress next : Progress} {line : Text} {state left : σ}

/-! ### The levels of one block

The list ends with the line that closes the block.  From then on there is no level at its
position, until another block is opened there.
-/

/-- The levels that the block at a position goes through: the one it has, and the one after
each line until it is closed or the run fails. -/
def levelsAt (host : Host σ) (position : Nat) (progress : Progress) : List Text → σ → List Level
  | [], _ => (progress.nesting.at? position).toList
  | line :: rest, state =>
    match progress.nesting.at? position with
    | none => []
    | some level =>
      level ::
        match Effect.outcome (step host progress line) state with
        | (.ok next, left) => levelsAt host position next rest left
        | (.error _, _) => []

private theorem levelsAt_of_closed {position : Nat} (h : progress.nesting.at? position = none)
    (lines : List Text) (state : σ) : levelsAt host position progress lines state = [] := by
  cases lines <;> simp [levelsAt, h]

private theorem levelsAt_of_open (host : Host σ) {position : Nat} {level : Level}
    (h : progress.nesting.at? position = some level) (lines : List Text) (state : σ) :
    levelsAt host position progress lines state = [level] ∨
      ∃ line rest next left, lines = line :: rest ∧
        Effect.outcome (step host progress line) state = (.ok next, left) ∧
        levelsAt host position progress lines state =
          level :: levelsAt host position next rest left := by
  cases lines with
  | nil =>
    refine Or.inl ?_
    simp [levelsAt, h]
  | cons line rest =>
    rcases hstep : Effect.outcome (step host progress line) state with ⟨failure | next, left⟩
    · refine Or.inl ?_
      simp [levelsAt, h, hstep]
    · refine Or.inr ⟨line, rest, next, left, rfl, hstep, ?_⟩
      simp [levelsAt, h, hstep]

private theorem head?_levelsAt (host : Host σ) (position : Nat) (progress : Progress)
    (lines : List Text) (state : σ) :
    (levelsAt host position progress lines state).head? = progress.nesting.at? position := by
  cases lines with
  | nil => cases hat : progress.nesting.at? position <;> simp [levelsAt, hat]
  | cons line rest => cases hat : progress.nesting.at? position <;> simp [levelsAt, hat]

theorem level_of_mem_levelsAt {position : Nat} (hposition : 0 < position) {lines : List Text}
    (hformed : progress.nesting.WellFormed) :
    ∀ level ∈ levelsAt host position progress lines state,
      level = ⟨false, true⟩ ∨ level = ⟨true, false⟩ ∨ level = ⟨true, true⟩ := by
  induction lines generalizing progress state with
  | nil =>
    intro level hmem
    exact hformed.level_of_at? hposition (Option.mem_toList.mp hmem)
  | cons line rest ih =>
    cases hat : progress.nesting.at? position with
    | none => simp [levelsAt_of_closed hat]
    | some first =>
      have hfirst := hformed.level_of_at? hposition hat
      obtain hone | ⟨line, rest, next, left, hlines, hstep, hmore⟩ :=
        levelsAt_of_open host hat (line :: rest) state
      · rw [hone]
        exact List.forall_mem_singleton.mpr hfirst
      · cases hlines
        rw [hmore]
        obtain ⟨keyword?, hmove⟩ := move_of_step hstep
        exact List.forall_mem_cons.mpr ⟨hfirst, ih (hmove.wellFormed hformed)⟩

/-- From one line to the next a block goes back no stage. -/
theorem isChain_levelsAt (host : Host σ) (position : Nat) (progress : Progress)
    (lines : List Text) (state : σ) :
    (levelsAt host position progress lines state).IsChain
      fun earlier later => earlier.stage ≤ later.stage := by
  induction lines generalizing progress state with
  | nil =>
    cases hat : progress.nesting.at? position with
    | none => simp [levelsAt, hat]
    | some level => simp [levelsAt, hat]
  | cons line rest ih =>
    cases hat : progress.nesting.at? position with
    | none => simp [levelsAt_of_closed hat]
    | some first =>
      obtain hone | ⟨line, rest, next, left, hlines, hstep, hmore⟩ :=
        levelsAt_of_open host hat (line :: rest) state
      · simp [hone]
      · cases hlines
        rw [hmore, List.isChain_cons]
        refine ⟨fun later hlater => ?_, ih next left⟩
        rw [head?_levelsAt] at hlater
        obtain ⟨keyword?, hmove⟩ := move_of_step hstep
        exact hmove.stage_le hat hlater

/-! ### Which conditions are evaluated

That a condition is not evaluated is said by putting anything else in the place of its
evaluation.  `stepBy` is the step whose `ELSE IF` conditions are decided in a given way,
and a line evaluates a condition when it matters what that way is.
-/

/-- The line evaluates the condition of an `ELSE IF`: what would decide the condition
instead of its evaluation could make a difference. -/
def Evaluates (host : Host σ) (progress : Progress) (line : Text) : Prop :=
  ∃ decide, stepBy host decide progress line ≠ step host progress line

/-- A block that can take no branch evaluates no condition of one. -/
private theorem enterBranchBy_congr (hasleep : ¬progress.nesting.Wakeable)
    (decide decide' : Text → Effect σ Bool) (marker : Text) (condition? : Option Text) :
    enterBranchBy decide progress marker condition? =
      enterBranchBy decide' progress marker condition? := by
  obtain ⟨nesting, reply⟩ := progress
  obtain ⟨bottom, rfl⟩ | ⟨outer, level, rfl⟩ := nesting.eq_outside_or_push
  · rfl
  · have hdecided : (outer.top.suppressed || level.matched) = true := by
      simpa using not_wakeable_push.mp hasleep
    simp only [enterBranchBy, parent?_push, top_push, hdecided, if_true]

theorem wakeable_of_evaluates (h : Evaluates host progress line) : progress.nesting.Wakeable := by
  by_contra hasleep
  obtain ⟨decide, hdiffer⟩ := h
  refine hdiffer ?_
  unfold step
  simp only [stepBy, carryOutBy, passOverBy,
    enterBranchBy_congr hasleep decide (decideCondition host)]

/-! ### One branch at most -/

/-- A line of the script opens a block at the position, which leads to `opened`; the lines
`after` are still to come. -/
def Opens (host : Host σ) (script : Text) (start : σ) (position : Nat) (opened : Progress)
    (state : σ) (after : List Text) : Prop :=
  ∃ before line progress between, directiveLines script = before ++ line :: after ∧
    Effect.outcome (steps host .start before) start = (.ok progress, between) ∧
    Effect.outcome (step host progress line) between = (.ok opened, state) ∧
    progress.nesting.depth = position ∧ opened.nesting.depth = position + 1

/-- **A block takes one branch at most.**  Follow a block from the line that opens it to the
line that closes it, or to the end of the run.  It is skipped for a while, then active for a
while and then skipped again, each of which may last no time at all, and once it has taken a
branch it counts as having taken one from then on.  While it is the innermost block, the
condition of an `ELSE IF` is evaluated only if it has taken no branch and the block around
it is active. -/
theorem block_takes_one_branch (host : Host σ) {script : Text} {start : σ} {position : Nat}
    {opened : Progress} {after : List Text}
    (h : Opens host script start position opened state after) :
    levelsAt host position opened after state ≠ [] ∧
    (∃ waiting taken past,
      (levelsAt host position opened after state).map Level.suppressed =
        List.replicate waiting true ++
          (List.replicate taken false ++ List.replicate past true) ∧
      (levelsAt host position opened after state).map Level.matched =
        List.replicate waiting false ++
          (List.replicate taken true ++ List.replicate past true)) ∧
    (∀ inside further rest reached final, after = inside ++ further :: rest →
      Effect.outcome (steps host opened inside) state = (.ok reached, final) →
      reached.nesting.depth = position + 1 → Evaluates host reached further →
      ∃ level parent, reached.nesting.at? position = some level ∧ level.matched = false ∧
        reached.nesting.at? (position - 1) = some parent ∧ parent.suppressed = false) := by
  obtain ⟨before, line, progress, between, -, hreached, hopens, rfl, hdepth⟩ := h
  have hformed : progress.nesting.WellFormed :=
    keeps_of_moves (fun _ _ _ hmove => hmove.wellFormed) wellFormed_base hreached
  obtain ⟨keyword?, hmove⟩ := move_of_step hopens
  have hposition : 0 < progress.nesting.depth := Nat.succ_pos _
  have hinnermost : ∀ {reached : Progress}, reached.nesting.depth = progress.nesting.depth + 1 →
      reached.nesting.at? progress.nesting.depth = some reached.nesting.top := by
    intro reached hreached
    rw [← at?_pred_depth, hreached]
    rfl
  refine ⟨?_, ?_, ?_⟩
  · intro hnil
    have hhead := head?_levelsAt host progress.nesting.depth opened after state
    rw [hnil, hinnermost hdepth] at hhead
    cases hhead
  · obtain ⟨waiting, taken, past, hlevels⟩ := Level.eq_replicate_of_stages
      (level_of_mem_levelsAt hposition (hmove.wellFormed hformed))
      (isChain_levelsAt host progress.nesting.depth opened after state)
    refine ⟨waiting, taken, past, ?_, ?_⟩
    · simp [hlevels]
    · simp [hlevels]
  · intro inside further rest reached final _ _ hdepth hevaluates
    obtain ⟨parent, hparent, hactive, hunmatched⟩ := wakeable_of_evaluates hevaluates
    refine ⟨reached.nesting.top, parent, hinnermost hdepth, hunmatched, ?_, hactive⟩
    obtain ⟨bottom, houtside⟩ | ⟨outer, level, hpush⟩ := reached.nesting.eq_outside_or_push
    · rw [houtside] at hparent
      cases hparent
    · rw [hpush] at hdepth hparent ⊢
      -- The level around the innermost one is on top of what lies below it.
      obtain rfl : parent = outer.top := (Option.some.inj hparent).symm
      have houter : outer.depth = progress.nesting.depth := Nat.succ.inj hdepth
      rw [at?_push, ← houter, if_neg (by omega), at?_pred_depth]

/-- A block that waits, takes its second branch, and then meets an `ELSE`, an `ELSE IF` and
another `ELSE`; blocks are opened in it while it waits and while it is in its branch. -/
def repeatedScript : Text :=
  ("IF 1 == 2\nIF 1 == 1\nELSE\nEND\nELSE IF 1 == 1\nIF 1 == 2\nEND\n" ++
    "ELSE\nELSE IF 1 == 1\nELSE\nEND\nSAY a").toList

theorem block_takes_one_branch_repeatedScript :
    ∃ opened state after,
      Opens Session.host repeatedScript (.empty, ⟨fun _ => .zero, 0⟩) 1 opened state after ∧
      levelsAt Session.host 1 opened after state =
        List.replicate 4 ⟨true, false⟩ ++
          (List.replicate 3 ⟨false, true⟩ ++ List.replicate 3 ⟨true, true⟩) ∧
      ∃ waiting taken past,
        (levelsAt Session.host 1 opened after state).map Level.suppressed =
          List.replicate waiting true ++
            (List.replicate taken false ++ List.replicate past true) ∧
        (levelsAt Session.host 1 opened after state).map Level.matched =
          List.replicate waiting false ++
            (List.replicate taken true ++ List.replicate past true) := by
  have hlines : directiveLines repeatedScript =
      [] ++ "IF 1 == 2".toList :: (directiveLines repeatedScript).tail := by
    decide +kernel
  have hlevels : (match Effect.outcome (step Session.host .start "IF 1 == 2".toList)
        (.empty, ⟨fun _ => .zero, 0⟩) with
      | (.ok opened, state) => (opened.nesting.depth,
        levelsAt Session.host 1 opened (directiveLines repeatedScript).tail state)
      | (.error _, _) => (0, [])) =
      (2, List.replicate 4 ⟨true, false⟩ ++
        (List.replicate 3 ⟨false, true⟩ ++ List.replicate 3 ⟨true, true⟩)) := by
    decide +kernel
  rcases hstep : Effect.outcome (step Session.host .start "IF 1 == 2".toList)
    (.empty, ⟨fun _ => .zero, 0⟩) with ⟨failure | opened, state⟩
  · rw [hstep] at hlevels
    cases hlevels
  · rw [hstep] at hlevels
    obtain ⟨hdepth, hlevels⟩ := Prod.mk.inj hlevels
    have hopens : Opens Session.host repeatedScript (.empty, ⟨fun _ => .zero, 0⟩) 1 opened state
        (directiveLines repeatedScript).tail :=
      ⟨[], _, .start, _, hlines, rfl, hstep, rfl, hdepth⟩
    exact ⟨opened, state, _, hopens, hlevels, (block_takes_one_branch Session.host hopens).2.1⟩

end Script

end LineScript
