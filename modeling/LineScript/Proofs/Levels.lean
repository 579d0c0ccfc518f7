/-
What a line does to the levels, and what holds of them in every state of a run.

A line makes one move: it leaves the levels alone, opens one level, puts the innermost
one at another, or closes it.  What every move keeps, every run keeps.

The base is stored like any other level and could be put at another one.  It never is,
because a branch outside all blocks is only said to be an error.
-/
import LineScript.Proofs.Step
import LineScript.Session.Basic
import Mathlib.Data.List.Chain

namespace LineScript

namespace Nesting

/-! ### The stack of levels -/

/-- All levels from the innermost to the base. -/
def frames (nesting : Nesting) : List Level :=
  nesting.levels ++ [nesting.bottom]

@[simp] theorem frames_outside (bottom : Level) : (outside bottom).frames = [bottom] := rfl

@[simp] theorem frames_push (outer : Nesting) (level : Level) :
    (outer.push level).frames = level :: outer.frames := rfl

/-- The innermost level is on top of the stack. -/
theorem head?_frames (nesting : Nesting) : nesting.frames.head? = some nesting.top := by
  obtain ⟨bottom, rfl⟩ | ⟨outer, level, rfl⟩ := nesting.eq_outside_or_push
  · rfl
  · rfl

/-- The base is at its bottom. -/
theorem getLast?_frames (nesting : Nesting) : nesting.frames.getLast? = some nesting.bottom := by
  simp [frames]

/-- The depth is the height of the stack. -/
theorem length_frames (nesting : Nesting) : nesting.frames.length = nesting.depth := by
  simp [frames, depth]

theorem frames_ne_nil (nesting : Nesting) : nesting.frames ≠ [] := by
  simp [frames]

/-! ### Moves

`Move` lists the moves with all that the interpreter checks before it makes them, and says
which keyword asks for which.  It is the one place where a step is taken apart for what it
does to the nesting; the proofs about levels are case analyses over it.
-/

/-- What one line can do to the nesting, with the keyword the line is judged by. -/
inductive Move : Option Keyword → Nesting → Nesting → Prop where
  /-- A line without a block keyword leaves the nesting alone. -/
  | plain (nesting : Nesting) : Move none nesting nesting
  /-- A condition is decided in an active block. -/
  | opening (outer : Nesting) (taken : Bool) :
      outer.top.suppressed = false → Move (some .opening) outer (outer.push (.branch taken))
  /-- A block in a skipped one is dead from the start. -/
  | openingDead (outer : Nesting) :
      outer.top.suppressed = true → Move (some .opening) outer (outer.push .dead)
  /-- A branch outside all blocks is an error, which is only said. -/
  | stray (keyword : Keyword) (bottom : Level) :
      keyword = .elseIf ∨ keyword = .otherwise →
      Move (some keyword) (outside bottom) (outside bottom)
  /-- A block in an active one that has taken no branch takes this one or passes over it. -/
  | deciding (keyword : Keyword) (outer : Nesting) (level : Level) (taken : Bool) :
      keyword = .elseIf ∨ keyword = .otherwise →
      outer.top.suppressed = false → level.matched = false →
      Move (some keyword) (outer.push level) (outer.push (.branch taken))
  /-- A block in a skipped one, or one that has taken a branch, takes no other. -/
  | ending (keyword : Keyword) (outer : Nesting) (level : Level) :
      keyword = .elseIf ∨ keyword = .otherwise →
      outer.top.suppressed = true ∨ level.matched = true →
      Move (some keyword) (outer.push level) (outer.push .dead)
  /-- The innermost block is closed, unless there is none. -/
  | closing (nesting : Nesting) : Move (some .closing) nesting nesting.pop

theorem bottom_pop (nesting : Nesting) : nesting.pop.bottom = nesting.bottom := by
  obtain ⟨bottom, rfl⟩ | ⟨outer, level, rfl⟩ := nesting.eq_outside_or_push
  · rfl
  · rfl

/-- No move puts the base at another level. -/
theorem Move.bottom_eq {keyword? : Option Keyword} {before after : Nesting}
    (h : Move keyword? before after) : after.bottom = before.bottom := by
  cases h with
  | plain => rfl
  | opening => rfl
  | openingDead => rfl
  | stray => rfl
  | deciding => rfl
  | ending => rfl
  | closing => exact before.bottom_pop

end Nesting

namespace Script

open Nesting

variable {σ : Type} {host : Host σ} {progress next : Progress} {line : Text} {state left : σ}

/-- Starting another branch moves the levels as a line with either branch keyword does. -/
private theorem move_of_enterBranch {marker : Text} {condition? : Option Text} {keyword : Keyword}
    (hkeyword : keyword = .elseIf ∨ keyword = .otherwise)
    (h : Effect.outcome (enterBranch host progress marker condition?) state = (.ok next, left)) :
    Move (some keyword) progress.nesting next.nesting := by
  obtain ⟨nesting, reply⟩ := progress
  obtain ⟨bottom, rfl⟩ | ⟨outer, level, rfl⟩ := nesting.eq_outside_or_push
  · rw [enterBranch_outside] at h
    cases h
    exact .stray keyword bottom hkeyword
  · by_cases hdecided : outer.top.suppressed = true ∨ level.matched = true
    · rw [enterBranch_of_decided host reply marker condition? hdecided] at h
      cases h
      exact .ending keyword outer level hkeyword hdecided
    · simp only [not_or, Bool.not_eq_true] at hdecided
      obtain ⟨houter, hlevel⟩ := hdecided
      cases condition? with
      | none =>
        rw [enterBranch_of_unconditional host reply marker houter hlevel] at h
        cases h
        exact .deciding keyword outer level true hkeyword houter hlevel
      | some condition =>
        rw [enterBranch_of_awaiting host reply marker condition houter hlevel] at h
        obtain ⟨taken, between, -, h⟩ := Effect.outcome_bind_eq_ok h
        cases h
        exact .deciding keyword outer level taken hkeyword houter hlevel

/-- A line that is carried out moves the levels as its keyword asks. -/
theorem move_of_carryOut (hactive : progress.nesting.top.suppressed = false)
    (h : Effect.outcome (carryOut host progress line) state = (.ok next, left)) :
    Move (Keyword.ofLine? line) progress.nesting next.nesting := by
  cases hkeyword : Keyword.ofLine? line with
  | none =>
    rw [carryOut_of_none host hkeyword] at h
    obtain ⟨reply, between, -, h⟩ := Effect.outcome_bind_eq_ok h
    cases h
    exact .plain progress.nesting
  | some keyword =>
    cases keyword with
    | opening =>
      rw [carryOut_of_opening host hkeyword] at h
      obtain ⟨taken, between, -, h⟩ := Effect.outcome_bind_eq_ok h
      cases h
      exact .opening progress.nesting taken hactive
    | elseIf =>
      rw [carryOut_of_elseIf host hkeyword] at h
      exact move_of_enterBranch (Or.inl rfl) h
    | otherwise =>
      rw [carryOut_of_otherwise host hkeyword] at h
      exact move_of_enterBranch (Or.inr rfl) h
    | closing =>
      rw [carryOut_of_closing host hkeyword] at h
      cases h
      exact .closing progress.nesting

/-- A line that is passed over moves the levels as its keyword asks. -/
theorem move_of_passOver (hskipped : progress.nesting.top.suppressed = true)
    (h : Effect.outcome (passOver host progress line) state = (.ok next, left)) :
    Move (Keyword.ofLine? line) progress.nesting next.nesting := by
  cases hkeyword : Keyword.ofLine? line with
  | none =>
    rw [passOver_of_none host hkeyword] at h
    cases h
    exact .plain progress.nesting
  | some keyword =>
    cases keyword with
    | opening =>
      rw [passOver_of_opening host hkeyword] at h
      cases h
      exact .openingDead progress.nesting hskipped
    | elseIf =>
      cases hawaits : progress.nesting.awaitsBranch with
      | true =>
        rw [passOver_of_awaited host hkeyword hawaits] at h
        obtain ⟨replaced, between, -, h⟩ := Effect.outcome_bind_eq_ok h
        exact move_of_enterBranch (Or.inl rfl) h
      | false =>
        rw [passOver_of_unawaited host hkeyword hawaits] at h
        exact move_of_enterBranch (Or.inl rfl) h
    | otherwise =>
      rw [passOver_of_otherwise host hkeyword] at h
      exact move_of_enterBranch (Or.inr rfl) h
    | closing =>
      rw [passOver_of_closing host hkeyword] at h
      cases h
      exact .closing progress.nesting

/-- Every line makes one move. -/
theorem move_of_step (h : Effect.outcome (step host progress line) state = (.ok next, left)) :
    ∃ keyword?, Move keyword? progress.nesting next.nesting := by
  cases hskipped : progress.nesting.top.suppressed with
  | true =>
    rw [step_of_suppressed host hskipped] at h
    exact ⟨Keyword.ofLine? line, move_of_passOver hskipped h⟩
  | false =>
    rw [step_of_active host hskipped] at h
    obtain ⟨replaced, between, -, h⟩ := Effect.outcome_bind_eq_ok h
    exact ⟨Keyword.ofLine? replaced.trim, move_of_carryOut hskipped h⟩

/-- What every move keeps, a run keeps. -/
theorem keeps_of_moves {P : Nesting → Prop}
    (hmove : ∀ keyword? before after, Move keyword? before after → P before → P after)
    {lines : List Text} (hstart : P progress.nesting)
    (h : Effect.outcome (steps host progress lines) state = (.ok next, left)) :
    P next.nesting := by
  induction lines generalizing progress state with
  | nil =>
    cases h
    exact hstart
  | cons line rest ih =>
    rw [steps_cons] at h
    obtain ⟨between, middle, hstep, hrest⟩ := Effect.outcome_bind_eq_ok h
    obtain ⟨keyword?, hmoved⟩ := move_of_step hstep
    exact ih (hmove keyword? _ _ hmoved hstart) hrest

/-- **No run puts the base at another level.** -/
theorem bottom_steps {lines : List Text}
    (h : Effect.outcome (steps host progress lines) state = (.ok next, left)) :
    next.nesting.bottom = progress.nesting.bottom :=
  keeps_of_moves (fun _ _ _ hmove hbefore => hmove.bottom_eq.trans hbefore) rfl h

end Script

/-! ### The invariant

It is read off the stack of all levels, the base included.  An active block has always taken
a branch, since a level becomes active only when its branch is taken, and nothing but a dead
level ever lies directly inside a suppressed one.  The last is what keeps a skipped part of a
script skipped: a dead level stays dead, so nothing inside a suppressed block can wake before
the block does.
-/

namespace Nesting

/-- The levels fit together.  The base is active and has taken nothing, every other level
waits for its branch, has taken it, or is dead, and directly inside a suppressed level
there is only a dead one. -/
structure WellFormed (nesting : Nesting) : Prop where
  /-- At the bottom of the stack lies the base. -/
  bottom : nesting.frames.getLast? = some ⟨false, false⟩
  /-- Above the base an active level has taken a branch. -/
  above : ∀ level ∈ nesting.frames.dropLast,
    level = ⟨false, true⟩ ∨ level = ⟨true, false⟩ ∨ level = ⟨true, true⟩
  /-- What lies in a skipped block is dead. -/
  inside : nesting.frames.IsChain fun inner outer => outer.suppressed = true → inner = ⟨true, true⟩

theorem wellFormed_base : base.WellFormed where
  bottom := rfl
  above := by simp [base]
  inside := by simp [base]

/-- A level on top of others fits if it waits, is taken or is dead, and is dead when the
level around it is suppressed. -/
theorem wellFormed_push {outer : Nesting} {level : Level} :
    (outer.push level).WellFormed ↔ outer.WellFormed ∧
      (level = ⟨false, true⟩ ∨ level = ⟨true, false⟩ ∨ level = ⟨true, true⟩) ∧
      (outer.top.suppressed = true → level = ⟨true, true⟩) := by
  have hlast : (level :: outer.frames).getLast? = outer.frames.getLast? := by
    rw [← frames_push, getLast?_frames, getLast?_frames, bottom_push]
  have hdrop : (level :: outer.frames).dropLast = level :: outer.frames.dropLast :=
    List.dropLast_cons_of_ne_nil outer.frames_ne_nil
  have hchain : ∀ R : Level → Level → Prop,
      (level :: outer.frames).IsChain R ↔ R level outer.top ∧ outer.frames.IsChain R := by
    intro R
    rw [List.isChain_cons, head?_frames]
    simp
  constructor
  · rintro ⟨hbottom, habove, hinside⟩
    rw [frames_push, hlast] at hbottom
    rw [frames_push, hdrop, List.forall_mem_cons] at habove
    rw [frames_push, hchain] at hinside
    exact ⟨⟨hbottom, habove.2, hinside.2⟩, habove.1, hinside.1⟩
  · rintro ⟨⟨hbottom, habove, hinside⟩, hlevel, hdead⟩
    refine ⟨?_, ?_, ?_⟩
    · rw [frames_push, hlast]
      exact hbottom
    · rw [frames_push, hdrop, List.forall_mem_cons]
      exact ⟨hlevel, habove⟩
    · rw [frames_push, hchain]
      exact ⟨hdead, hinside⟩

theorem WellFormed.pop {nesting : Nesting} (h : nesting.WellFormed) : nesting.pop.WellFormed := by
  obtain ⟨bottom, rfl⟩ | ⟨outer, level, rfl⟩ := nesting.eq_outside_or_push
  · exact h
  · exact (wellFormed_push.mp h).1

/-- Every move keeps the levels well formed. -/
theorem Move.wellFormed {keyword? : Option Keyword} {before after : Nesting}
    (h : Move keyword? before after) (hbefore : before.WellFormed) : after.WellFormed := by
  have hbranch : ∀ taken, Level.branch taken = ⟨false, true⟩ ∨
      Level.branch taken = ⟨true, false⟩ ∨ Level.branch taken = ⟨true, true⟩ := by decide
  cases h with
  | plain => exact hbefore
  | opening _ taken hactive =>
    refine wellFormed_push.mpr ⟨hbefore, hbranch taken, fun hskipped => ?_⟩
    rw [hactive] at hskipped
    cases hskipped
  | openingDead => exact wellFormed_push.mpr ⟨hbefore, Or.inr (Or.inr rfl), fun _ => rfl⟩
  | stray => exact hbefore
  | deciding keyword outer level taken _ hactive =>
    refine wellFormed_push.mpr ⟨(wellFormed_push.mp hbefore).1, hbranch taken, fun hskipped => ?_⟩
    rw [hactive] at hskipped
    cases hskipped
  | ending keyword outer level =>
    exact wellFormed_push.mpr ⟨(wellFormed_push.mp hbefore).1, Or.inr (Or.inr rfl), fun _ => rfl⟩
  | closing => exact hbefore.pop

/-- Around an active level every level is active. -/
theorem WellFormed.active_of_top {nesting : Nesting} (h : nesting.WellFormed)
    (hactive : nesting.top.suppressed = false) :
    ∀ level ∈ nesting.frames, level.suppressed = false := by
  obtain ⟨levels, bottom⟩ := nesting
  induction levels with
  | nil => exact List.forall_mem_singleton.mpr hactive
  | cons level outer ih =>
    have hpush : (push ⟨outer, bottom⟩ level).WellFormed := h
    obtain ⟨houter, -, hdead⟩ := wellFormed_push.mp hpush
    have hlevel : level.suppressed = false := hactive
    have haround : (Nesting.mk outer bottom).top.suppressed = false := by
      by_contra hskipped
      rw [hdead (by simpa using hskipped)] at hlevel
      cases hlevel
    intro found hfound
    rcases List.mem_cons.mp hfound with rfl | hmem
    · exact hlevel
    · exact ih houter haround found hmem

end Nesting

namespace Script

variable {σ : Type}

/-- A run of the script passes through the progress, with the host in the state: some of
its lines, from the first on, lead there. -/
def Passes (host : Host σ) (script : Text) (start : σ) (progress : Progress) (state : σ) : Prop :=
  ∃ lines, lines <+: directiveLines script ∧
    Effect.outcome (steps host .start lines) start = (.ok progress, state)

/-- **In every state of every run the levels fit together**, whatever the host does and
however the blocks of the script are nested: there is a base that is active and has taken
nothing, every active block has taken a branch, and what lies in a skipped block is dead.
So a run in an active block is in no skipped one. -/
theorem levels_wellFormed (host : Host σ) {script : Text} {start state : σ} {progress : Progress}
    (h : Passes host script start progress state) :
    progress.nesting.frames ≠ [] ∧ progress.nesting.WellFormed ∧
      (progress.nesting.top.suppressed = false →
        ∀ level ∈ progress.nesting.frames, level.suppressed = false) := by
  obtain ⟨lines, -, hreached⟩ := h
  have hformed : progress.nesting.WellFormed :=
    keeps_of_moves (fun _ _ _ hmove => hmove.wellFormed) Nesting.wellFormed_base hreached
  exact ⟨progress.nesting.frames_ne_nil, hformed, hformed.active_of_top⟩

/-- A block in a skipped one, with an `ELSE` that cannot wake it. -/
def nestedScript : Text :=
  "IF 1 == 2\nIF 1 == 1\nELSE\nSAY a".toList

theorem levels_wellFormed_nestedScript :
    ∃ progress state, Passes Session.host nestedScript (.empty, ⟨fun _ => .zero, 0⟩) progress state ∧
      progress.nesting.frames = [⟨true, true⟩, ⟨true, false⟩, ⟨false, false⟩] ∧
      progress.nesting.WellFormed := by
  have hnested : (Effect.outcome (steps Session.host .start (directiveLines nestedScript))
      (.empty, ⟨fun _ => .zero, 0⟩)).1.toOption.map Progress.nesting =
        some ((Nesting.base.push ⟨true, false⟩).push ⟨true, true⟩) := by
    decide +kernel
  rcases hreached : Effect.outcome (steps Session.host .start (directiveLines nestedScript))
    (.empty, ⟨fun _ => .zero, 0⟩) with ⟨failure | progress, state⟩
  · rw [hreached] at hnested
    cases hnested
  · rw [hreached] at hnested
    have hnesting : progress.nesting = (Nesting.base.push ⟨true, false⟩).push ⟨true, true⟩ :=
      Option.some.inj hnested
    have hpasses : Passes Session.host nestedScript (.empty, ⟨fun _ => .zero, 0⟩) progress state :=
      ⟨directiveLines nestedScript, List.prefix_refl _, hreached⟩
    refine ⟨progress, state, hpasses, ?_, (levels_wellFormed Session.host hpasses).2.1⟩
    rw [hnesting]
    rfl

end Script

end LineScript
