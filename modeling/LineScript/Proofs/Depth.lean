/-
How deep a script is nested, and what that depends on.

A line is read after its placeholders are replaced, so what the variables hold can make
it another line.  When placeholders stand only behind keywords that take an argument,
that cannot open or close a block, with one exception: an `IF` whose condition expands
to nothing but blanks loses its keyword with the trimmed space, and opens no block.

The depths of a run are then those the lines spell as they stand, one more after an
`IF`, one less after an `END` but never below the base, exactly when no `IF` that is met
in an active block loses its condition.
-/
import LineScript.Proofs.Alike
import LineScript.Proofs.Headed
import LineScript.Proofs.Levels

namespace LineScript

/-! ### The depths that lines spell

Nothing but the keywords of the lines goes into these depths, so two runs of one script are
compared by comparing each with them.
-/

/-- The depth after a line with a given keyword. -/
def Keyword.depthAfter (depth : Nat) : Option Keyword → Nat
  | some .opening => depth + 1
  | some .closing => max 1 (depth - 1)
  | _ => depth

theorem Keyword.depthAfter_le (depth : Nat) (keyword? : Option Keyword) :
    depthAfter depth keyword? ≤ depth + 1 := by
  unfold depthAfter
  split <;> omega

/-- The depth after each line, read off the keywords of the lines as they stand. -/
def Keyword.depths (depth : Nat) : List Text → List Nat
  | [] => []
  | line :: rest =>
    depthAfter depth (ofLine? line) :: depths (depthAfter depth (ofLine? line)) rest

namespace Nesting

theorem one_le_depth (nesting : Nesting) : 1 ≤ nesting.depth :=
  Nat.le_add_left 1 _

theorem depth_pop (nesting : Nesting) : nesting.pop.depth = max 1 (nesting.depth - 1) := by
  obtain ⟨bottom, rfl⟩ | ⟨outer, level, rfl⟩ := nesting.eq_outside_or_push
  · rfl
  · have := outer.one_le_depth
    show outer.depth = max 1 ((outer.push level).depth - 1)
    rw [depth_push]
    omega

/-- A move leaves the depth that its keyword asks for. -/
theorem Move.depth {keyword? : Option Keyword} {before after : Nesting}
    (h : Move keyword? before after) :
    after.depth = Keyword.depthAfter before.depth keyword? := by
  have hbranch : ∀ (keyword : Keyword) (depth : Nat),
      keyword = .elseIf ∨ keyword = .otherwise → Keyword.depthAfter depth (some keyword) = depth := by
    rintro keyword depth (rfl | rfl) <;> rfl
  cases h with
  | plain => rfl
  | opening => rfl
  | openingDead => rfl
  | stray keyword _ hkeyword => exact (hbranch keyword _ hkeyword).symm
  | deciding keyword outer level taken hkeyword => exact (hbranch keyword _ hkeyword).symm
  | ending keyword outer level hkeyword => exact (hbranch keyword _ hkeyword).symm
  | closing => exact before.depth_pop

end Nesting

namespace Script

variable {σ : Type} {host : Host σ} {progress next : Progress} {line : Text} {state left : σ}

/-! ### The depths of a run

The induction is along the run, and its step is the depth a single line leaves: in a skipped
block the line as it stands decides it, in an active one what the line becomes.
-/

/-- The depth after each line of a run, up to the line at which the run fails. -/
def depths (host : Host σ) (progress : Progress) : List Text → σ → List Nat
  | [], _ => []
  | line :: rest, state =>
    match Effect.outcome (step host progress line) state with
    | (.ok next, left) => next.nesting.depth :: depths host next rest left
    | (.error _, _) => []

private theorem depths_cons {rest : List Text}
    (h : Effect.outcome (step host progress line) state = (.ok next, left)) :
    depths host progress (line :: rest) state =
      next.nesting.depth :: depths host next rest left := by
  rw [depths, h]

end Script

namespace Session

open Script

/-- The line of a block's head keeps a condition: what follows its keyword expands to
more than blanks. -/
def KeepsCondition (session : Session) (line : Text) : Prop :=
  Text.trim (session.expand (line.drop 3)).1 ≠ []

/-- Every `IF` that a run meets in an active block keeps its condition. -/
def KeepsConditions (progress : Progress) (lines : List Text) (start : Session × Draws) : Prop :=
  ∀ before line after, lines = before ++ line :: after → Keyword.ofLine? line = some .opening →
    ∀ reached left, Effect.outcome (steps host progress before) start = (.ok reached, left) →
      reached.nesting.top.suppressed = false → left.1.KeepsCondition line

variable {progress next : Progress} {line : Text} {rest : List Text} {start left : Session × Draws}

/-- The first `IF` of a run is met where the run starts, the others where its first line
leads. -/
private theorem keepsConditions_cons
    (hstep : Effect.outcome (step host progress line) start = (.ok next, left)) :
    KeepsConditions progress (line :: rest) start ↔
      (Keyword.ofLine? line = some .opening → progress.nesting.top.suppressed = false →
        start.1.KeepsCondition line) ∧ KeepsConditions next rest left := by
  constructor
  · intro h
    refine ⟨fun hkeyword hactive => h [] line rest rfl hkeyword progress start rfl hactive, ?_⟩
    intro before other after hrest hkeyword reached final hreached hactive
    refine h (line :: before) other after (by rw [hrest]; rfl) hkeyword reached final ?_ hactive
    rw [steps_cons, Effect.outcome_bind_of_ok hstep]
    exact hreached
  · rintro ⟨hfirst, hrest⟩ before other after hlines hkeyword reached final hreached hactive
    rcases before with _ | ⟨first, before⟩
    · obtain ⟨rfl, rfl⟩ := List.cons.inj hlines
      cases hreached
      exact hfirst hkeyword hactive
    · obtain ⟨rfl, hsplit⟩ := List.cons.inj hlines
      rw [steps_cons, Effect.outcome_bind_of_ok hstep] at hreached
      exact hrest before other after hsplit hkeyword reached final hreached hactive

/-- What an active line becomes opens or closes what the line itself does, unless it is
an `IF` that loses its condition. -/
theorem depthAfter_expand_iff (session : Session) (htrim : line.trim = line)
    (hheaded : Text.occursIn Placeholder.opener line = true → Headed line) {depth : Nat} :
    Keyword.depthAfter depth (Keyword.ofLine? (Text.trim (session.expand line).1)) =
        Keyword.depthAfter depth (Keyword.ofLine? line) ↔
      (Keyword.ofLine? line = some .opening → session.KeepsCondition line) := by
  by_cases hif : Keyword.ofLine? line = some .opening
  · rw [session.keyword_expand_opening hif, hif, KeepsCondition]
    by_cases hblank : Text.trim (session.expand (line.drop 3)).1 = []
    · rw [if_pos hblank]
      constructor
      · intro hdepth
        have : depth = depth + 1 := hdepth
        omega
      · intro hkeeps
        exact absurd hblank (hkeeps rfl)
    · rw [if_neg hblank]
      exact ⟨fun _ _ => hblank, fun _ => rfl⟩
  · refine ⟨fun _ hc => absurd hc hif, fun _ => ?_⟩
    by_cases helseIf : Keyword.ofLine? line = some .elseIf
    · rw [session.keyword_expand_elseIf helseIf, helseIf]
      split <;> rfl
    · rw [session.keyword_expand_other htrim hheaded hif helseIf]

/-- A line leaves the depth it spells, unless it is an `IF` that is met in an active
block and loses its condition. -/
theorem depth_step_iff (htrim : line.trim = line)
    (hheaded : Text.occursIn Placeholder.opener line = true → Headed line)
    (hstep : Effect.outcome (step host progress line) start = (.ok next, left)) :
    next.nesting.depth = Keyword.depthAfter progress.nesting.depth (Keyword.ofLine? line) ↔
      (Keyword.ofLine? line = some .opening → progress.nesting.top.suppressed = false →
        start.1.KeepsCondition line) := by
  by_cases hskipped : progress.nesting.top.suppressed = true
  · rw [step_of_suppressed host hskipped] at hstep
    have hdepth := (move_of_passOver hskipped hstep).depth
    refine ⟨fun _ _ hactive => ?_, fun _ => hdepth⟩
    rw [hskipped] at hactive
    cases hactive
  · have hactive : progress.nesting.top.suppressed = false := by simpa using hskipped
    rw [step_of_active host hactive] at hstep
    obtain ⟨replaced, between, hreplaced, hcarried⟩ := Effect.outcome_bind_eq_ok hstep
    obtain rfl : (start.1.expand line).1 = replaced := Except.ok.inj (Prod.mk.inj hreplaced).1
    rw [(move_of_carryOut hactive hcarried).depth, start.1.depthAfter_expand_iff htrim hheaded]
    exact ⟨fun h hkeyword _ => h hkeyword, fun h hkeyword => h hkeyword hactive⟩

/-- The depths of a run are the depths its lines spell exactly when every `IF` met in an
active block keeps its condition. -/
theorem depths_eq_iff : ∀ (lines : List Text) (progress : Progress) (start : Session × Draws),
    (∀ line ∈ lines, line.trim = line) →
    (∀ line ∈ lines, Text.occursIn Placeholder.opener line = true → Headed line) →
    (depths host progress lines start = Keyword.depths progress.nesting.depth lines ↔
      KeepsConditions progress lines start) := by
  intro lines
  induction lines with
  | nil =>
    intro progress start _ _
    refine ⟨fun _ before line after hlines => ?_, fun _ => rfl⟩
    cases before <;> cases hlines
  | cons line rest ih =>
    intro progress start htrim hheaded
    rw [List.forall_mem_cons] at htrim hheaded
    obtain ⟨next, left, hstep⟩ :=
      each_step Effect.sequential_succeeds reliable_host progress line start
    have hdepth := depth_step_iff htrim.1 hheaded.1 hstep
    have hrest := ih next left htrim.2 hheaded.2
    rw [depths_cons hstep, Keyword.depths, keepsConditions_cons hstep, List.cons.injEq, hdepth,
      ← hrest]
    -- The rest is compared at the depth the line leaves, which both sides now agree on.
    refine and_congr_right fun h => ?_
    rw [hdepth.mpr h]

/-- **The nesting of a script follows its lines as they stand, whatever the variables
hold, exactly as long as no `IF` that is met loses its condition.**  Placeholders stand
only behind keywords that take an argument.  Two sessions that keep the conditions are
nested alike after every line, and a script that has something solid behind every `IF`
keeps them in every session. -/
theorem depths_follow_keywords (script : Text)
    (hheaded : ∀ line ∈ directiveLines script,
      Text.occursIn Placeholder.opener line = true → Headed line) :
    (∀ start, depths host .start (directiveLines script) start =
        Keyword.depths 1 (directiveLines script) ↔
      KeepsConditions .start (directiveLines script) start) ∧
    (∀ first second, KeepsConditions .start (directiveLines script) first →
      KeepsConditions .start (directiveLines script) second →
      depths host .start (directiveLines script) first =
        depths host .start (directiveLines script) second) ∧
    ((∀ line ∈ directiveLines script, Keyword.ofLine? line = some .opening →
        ∃ piece ∈ Placeholder.pieces (line.drop 3), Placeholder.isSolid piece = true) →
      ∀ start, KeepsConditions .start (directiveLines script) start) := by
  have hiff := fun start => depths_eq_iff (directiveLines script) .start start
    (fun _ hmem => trim_of_mem_directiveLines hmem) hheaded
  refine ⟨hiff, ?_, ?_⟩
  · intro first second hfirst hsecond
    rw [(hiff first).mpr hfirst, (hiff second).mpr hsecond]
  · intro hsolid start before line after hlines hkeyword reached left _ _
    have hmem : line ∈ directiveLines script := by
      rw [hlines]
      simp
    exact left.1.trim_expand_ne_nil (hsolid line hmem hkeyword)

/-- A condition on a variable, a branch that sets one and text from the chat. -/
def guardedScript : Text :=
  ("IF {{getvar::x}} == 1\nELSE IF {{setvar::y::END}}\nSAY {{lastMessage}}\nEND\nEND").toList

theorem depths_follow_keywords_guardedScript :
    (∀ line ∈ directiveLines guardedScript,
      Text.occursIn Placeholder.opener line = true → Headed line) ∧
    depths host .start (directiveLines guardedScript) (.empty, ⟨fun _ => .zero, 0⟩) =
      [2, 2, 2, 1, 1] := by
  have hheaded : ∀ line ∈ directiveLines guardedScript,
      Text.occursIn Placeholder.opener line = true → Headed line := by decide +kernel
  obtain ⟨hiff, -, hkeeps⟩ := depths_follow_keywords guardedScript hheaded
  have hsolid : ∀ line ∈ directiveLines guardedScript, Keyword.ofLine? line = some .opening →
      ∃ piece ∈ Placeholder.pieces (line.drop 3), Placeholder.isSolid piece = true := by
    decide +kernel
  refine ⟨hheaded, ?_⟩
  rw [(hiff _).mpr (hkeeps hsolid _)]
  decide +kernel

/-- An `IF` whose whole condition is a variable. -/
def bareScript : Text :=
  "IF {{getvar::x}}\nSAY a\nELSE\nSAY b\nEND".toList

/-- With the variable unset the `IF` opens no block, and the `ELSE` and `END` that belong
to it are met outside all blocks. -/
theorem depths_bareScript_depend_on_variable :
    (∀ line ∈ directiveLines bareScript,
      Text.occursIn Placeholder.opener line = true → Headed line) ∧
    depths host .start (directiveLines bareScript) (.empty, ⟨fun _ => .zero, 0⟩) =
      [1, 1, 1, 1, 1] ∧
    depths host .start (directiveLines bareScript)
        (Session.empty.setVariable "x".toList "1 == 1".toList, ⟨fun _ => .zero, 0⟩) =
      [2, 2, 2, 2, 1] ∧
    Keyword.depths 1 (directiveLines bareScript) = [2, 2, 2, 2, 1] := by
  decide +kernel

end Session

end LineScript
