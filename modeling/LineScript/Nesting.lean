/-
The nesting of blocks while a script runs.

Each open block has a level that says whether its lines are skipped and whether one
of its branches has been taken.  Below all blocks lies the base, a level like any
other but for one thing: it cannot be removed.  A run starts with the base active and
with nothing taken.  Only two things ever happen to a level once it is there: it is
replaced by another while it is on top, and it is removed.
-/

namespace LineScript

/-- The state of one open block. -/
structure Level where
  /-- The lines at this level are skipped. -/
  suppressed : Bool
  /-- A branch of the block has been taken already, or none may ever be. -/
  matched : Bool
deriving DecidableEq

namespace Level

/-- The level outside all blocks. -/
def base : Level := ⟨false, false⟩

/-- A level at which no branch can be taken any more. -/
def dead : Level := ⟨true, true⟩

/-- The level of a branch whose condition has been decided. -/
def branch (taken : Bool) : Level := ⟨!taken, taken⟩

end Level

/-- The levels of the open blocks, and below them the base. -/
structure Nesting where
  /-- The open blocks' levels, innermost first. -/
  levels : List Level
  /-- The level below all blocks. -/
  bottom : Level
deriving DecidableEq

namespace Nesting

/-- No open block, at some level. -/
def outside (bottom : Level) : Nesting := ⟨[], bottom⟩

/-- No open block yet. -/
def base : Nesting := outside .base

/-- The number of levels, the base included. -/
def depth (nesting : Nesting) : Nat :=
  nesting.levels.length + 1

/-- The innermost level. -/
def top (nesting : Nesting) : Level :=
  nesting.levels.headD nesting.bottom

/-- The level around the innermost one; the base has none. -/
def parent? : Nesting → Option Level
  | ⟨[], _⟩ => none
  | ⟨_ :: outer, bottom⟩ => some (outer.headD bottom)

/-- Open a block at a level. -/
def push (nesting : Nesting) (level : Level) : Nesting :=
  { nesting with levels := level :: nesting.levels }

/-- Close the innermost block, if there is one. -/
def pop? : Nesting → Option Nesting
  | ⟨[], _⟩ => none
  | ⟨_ :: outer, bottom⟩ => some ⟨outer, bottom⟩

/-- Close the innermost block; the base stays. -/
def pop (nesting : Nesting) : Nesting :=
  nesting.pop?.getD nesting

/-- Put what is innermost at another level: a block, or the base when none is open. -/
def setTop : Nesting → Level → Nesting
  | ⟨[], _⟩, level => outside level
  | ⟨_ :: outer, bottom⟩, level => ⟨level :: outer, bottom⟩

/-- Can a branch with a condition still be taken here, so that the condition
matters? -/
def awaitsBranch (nesting : Nesting) : Bool :=
  match nesting.parent? with
  | some parent => !parent.suppressed && !nesting.top.matched
  | none => false

@[simp] theorem depth_push (nesting : Nesting) (level : Level) :
    (nesting.push level).depth = nesting.depth + 1 := rfl

@[simp] theorem top_push (nesting : Nesting) (level : Level) :
    (nesting.push level).top = level := rfl

@[simp] theorem parent?_push (nesting : Nesting) (level : Level) :
    (nesting.push level).parent? = some nesting.top := rfl

@[simp] theorem bottom_push (nesting : Nesting) (level : Level) :
    (nesting.push level).bottom = nesting.bottom := rfl

@[simp] theorem pop?_push (nesting : Nesting) (level : Level) :
    (nesting.push level).pop? = some nesting := rfl

/-- In every nesting no block is open, or there is an innermost one. -/
theorem eq_outside_or_push (nesting : Nesting) :
    (∃ bottom, nesting = outside bottom) ∨ ∃ outer level, nesting = push outer level := by
  rcases nesting with ⟨_ | ⟨level, outer⟩, bottom⟩
  · exact Or.inl ⟨bottom, rfl⟩
  · exact Or.inr ⟨⟨outer, bottom⟩, level, rfl⟩

/-- What is innermost is a block if its level is not the base's. -/
theorem eq_push_of_top_ne {nesting : Nesting} (h : nesting.top ≠ nesting.bottom) :
    ∃ outer level, nesting = push outer level := by
  obtain ⟨bottom, rfl⟩ | hpush := nesting.eq_outside_or_push
  · exact absurd rfl h
  · exact hpush

end Nesting

end LineScript
