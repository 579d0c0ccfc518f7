/-
Conditions of a block that has taken a branch.

Once a branch of a block has been taken, the conditions of the `ELSE IF` lines that
follow are never evaluated, and every one of these lines leads to the same place: a dead
level, with nothing said.  That holds whether the branch is left just now, so that the
line is still met as an active one, or was left some lines ago, so that it is skipped.  It
holds as well when a condition vanishes and leaves an `ELSE`, since a block that has taken
a branch takes no other.
-/
import LineScript.Proofs.Alike
import LineScript.Proofs.Headed
import LineScript.Proofs.Suppression

namespace LineScript

/-! ### Assignments of a trimmed line -/

private theorem Text.not_mem_of_blank {c : Char} {text : Text} (hc : isBlank c = false)
    (hblank : ∀ d ∈ text, isBlank d = true) : c ∉ text := by
  intro hmem
  rw [hblank c hmem] at hc
  cases hc

/-- The blanks that trimming drops hold no placeholder. -/
theorem Placeholder.assignments_trim (text : Text) :
    assignments (Text.trim text) = assignments text := by
  have hstart : assignments (Text.trimStart text) = assignments text := by
    have hblank : ∀ c ∈ text.takeWhile Text.isBlank, Text.isBlank c = true :=
      fun c hc => List.mem_takeWhile_imp hc
    have hopen := Text.not_mem_of_blank (c := '{') rfl hblank
    have hcut : text.takeWhile Text.isBlank ++ Text.trimStart text = text :=
      List.takeWhile_append_dropWhile
    rw [← assignments_append hopen, hcut]
  have hend : ∀ line, assignments (Text.trimEnd line) = assignments line := by
    intro line
    have hblank : ∀ c ∈ line.rtakeWhile Text.isBlank, Text.isBlank c = true :=
      fun c hc => List.mem_rtakeWhile_imp hc
    have hopen := Text.not_mem_of_blank (c := '{') rfl hblank
    have hclose := Text.not_mem_of_blank (c := '}') rfl hblank
    have hcut : Text.trimEnd line ++ line.rtakeWhile Text.isBlank = line :=
      List.rdropWhile_append_rtakeWhile
    rw [← assignments_append_tail hopen hclose, hcut]
  rw [Text.trim, hend, hstart]

namespace Session

open Script

variable {keyword : Text}

/-! ### A line with a condition that does not matter

The keyword may be in any letter case, and the condition may vanish when its placeholders are
replaced, and the `IF` with it.  Either way the line starts another branch.
-/

private theorem toLower_branchKeyword
    (hkeyword : Text.eqIgnoringCase keyword "ELSE IF ".toList = true) :
    keyword.map Char.toLower = "ELSE IF ".toList.map Char.toLower := by
  simpa [Text.eqIgnoringCase] using hkeyword

private theorem not_mem_branchKeyword
    (hkeyword : Text.eqIgnoringCase keyword "ELSE IF ".toList = true) : '{' ∉ keyword :=
  not_mem_headKeyword (by simp [headKeywords]) (toLower_branchKeyword hkeyword)

/-- A line that starts another branch with a condition is an `ELSE IF`, or an `ELSE` when
the condition is blank. -/
theorem keyword_branchLine (condition : Text)
    (hkeyword : Text.eqIgnoringCase keyword "ELSE IF ".toList = true) :
    Keyword.ofLine? (Text.trim (keyword ++ condition)) = some .otherwise ∨
      Keyword.ofLine? (Text.trim (keyword ++ condition)) = some .elseIf := by
  rw [Keyword.ofLine?_elseIf_append (toLower_branchKeyword hkeyword)]
  by_cases hblank : condition.trim = []
  · exact Or.inl (if_pos hblank)
  · exact Or.inr (if_neg hblank)

theorem keyword_expand_branchLine (session : Session) (condition : Text)
    (hkeyword : Text.eqIgnoringCase keyword "ELSE IF ".toList = true) :
    Keyword.ofLine? (Text.trim (session.expand (Text.trim (keyword ++ condition))).1) =
        some .otherwise ∨
      Keyword.ofLine? (Text.trim (session.expand (Text.trim (keyword ++ condition))).1) =
        some .elseIf := by
  by_cases hblank : condition.trim = []
  · -- A blank condition holds no placeholder, so there is nothing to replace.
    have hbrace : '{' ∉ Text.trim (keyword ++ condition) := by
      intro hmem
      have hnone := Text.not_mem_of_blank (c := '{') rfl (Text.trim_eq_nil_iff.mp hblank)
      rcases List.mem_append.mp (Text.mem_of_mem_trim hmem) with hhead | hrest
      · exact not_mem_branchKeyword hkeyword hhead
      · exact hnone hrest
    have hsame : (session.expand (Text.trim (keyword ++ condition))).1 =
        Text.trim (keyword ++ condition) := by
      show (Placeholder.expand _ _ _).1 = _
      rw [Placeholder.expand_of_not_mem _ _ hbrace]
    rw [hsame, Text.trim_trim]
    exact keyword_branchLine condition hkeyword
  · have helseIf : Keyword.ofLine? (Text.trim (keyword ++ condition)) = some .elseIf := by
      rw [Keyword.ofLine?_elseIf_append (toLower_branchKeyword hkeyword), if_neg hblank]
    rw [session.keyword_expand_elseIf helseIf]
    split
    · exact Or.inl rfl
    · exact Or.inr rfl

/-- The session after the assignments that the placeholders of a text make. -/
def assigned (session : Session) (text : Text) : Session :=
  { session with
    bindings := Placeholder.assign session.bindings (Placeholder.assignments text) }

/-- All that replacing the placeholders of such a line does to a session are the
assignments of the condition. -/
theorem expand_branchLine_snd (session : Session) (condition : Text)
    (hkeyword : Text.eqIgnoringCase keyword "ELSE IF ".toList = true) :
    (session.expand (Text.trim (keyword ++ condition))).2 = session.assigned condition := by
  have hmade : Placeholder.assignments (Text.trim (keyword ++ condition)) =
      Placeholder.assignments condition := by
    rw [Placeholder.assignments_trim,
      Placeholder.assignments_append (not_mem_branchKeyword hkeyword)]
  have hbindings := Placeholder.expand_snd session.history.last session.bindings
    (Text.trim (keyword ++ condition))
  rw [hmade] at hbindings
  show { session with bindings := (Placeholder.expand _ _ _).2 } = _
  rw [hbindings]
  rfl

/-! ### One step

The two ways in which the line is met differ in one thing.  The line that ends the taken
branch is met while the block is active, so its placeholders are replaced like those of any
active line, and the variables they set are set.  Those assignments are read off the
condition alone, and they are all of its influence.
-/

/-- A skipped block that has taken a branch stays dead at either line. -/
private theorem passed_of_matched (outer : Nesting) {level : Level}
    (hmatched : level.matched = true)
    {keyword? : Option Keyword} (h : keyword? = some .otherwise ∨ keyword? = some .elseIf) :
    passed outer level keyword? = outer.push .dead := by
  rcases h with rfl | rfl
  · have hswitch : (outer.top.suppressed || level.matched) = true := by
      rw [hmatched]
      exact Bool.or_true _
    show outer.push (if _ then _ else _) = _
    rw [if_pos hswitch]
  · rfl

/-- A branch that cannot be taken any more is dead, and its line does nothing but make the
assignments of its condition when the level is active. -/
theorem step_branchLine {progress : Progress} (condition : Text) (session : Session)
    (draws : Draws)
    (hkeyword : Text.eqIgnoringCase keyword "ELSE IF ".toList = true)
    (hbottom : progress.nesting.bottom.matched = false)
    (hmatched : progress.nesting.top.matched = true) :
    Effect.outcome (step host progress (Text.trim (keyword ++ condition))) (session, draws) =
      (.ok (progress.atLevel .dead),
        (if progress.nesting.top.suppressed then session else session.assigned condition,
          draws)) := by
  obtain ⟨nesting, reply⟩ := progress
  have hblock : nesting.top ≠ nesting.bottom := by
    intro hsame
    rw [hsame, hbottom] at hmatched
    cases hmatched
  obtain ⟨outer, level, rfl⟩ := Nesting.eq_push_of_top_ne hblock
  have hlevel : level.matched = true := hmatched
  have hdecided : outer.top.suppressed = true ∨ level.matched = true := Or.inr hlevel
  by_cases hskipped : (outer.push level).top.suppressed = true
  · have hasleep := Nesting.not_wakeable_push.mpr hdecided
    rw [step_of_suppressed host hskipped, passOver_eq_pure outer level reply fun h => hasleep h.2,
      passed_of_matched outer hlevel (keyword_branchLine condition hkeyword), if_pos hskipped]
    rfl
  · have hactive : (outer.push level).top.suppressed = false := by simpa using hskipped
    have hreplaced : Effect.outcome (host.substitute (Text.trim (keyword ++ condition)))
          (session, draws) =
        (.ok (session.expand (Text.trim (keyword ++ condition))).1,
          ((session.expand (Text.trim (keyword ++ condition))).2, draws)) := rfl
    rw [step_of_active host hactive, if_neg hskipped,
      ← expand_branchLine_snd session condition hkeyword, Effect.outcome_bind_of_ok hreplaced]
    rcases session.keyword_expand_branchLine condition hkeyword with h | h
    · rw [carryOut_of_otherwise host h, enterBranch_of_decided host reply _ _ hdecided]
      rfl
    · rw [carryOut_of_elseIf host h, enterBranch_of_decided host reply _ _ hdecided]
      rfl

/-! ### Whole runs -/

/-- **A condition that comes after a taken branch has no influence but the assignments it
makes.**  Put another condition in its place: the reply is the same, and the sessions that
are left are alike, provided that the two conditions leave every variable with the same
text when the line is met as an active one.  When it is met as a skipped one, nothing is
asked of them. -/
theorem decided_condition_inert {script other condition condition' : Text}
    {before after : List Text} {progress : Progress} {start left : Session × Draws}
    (hkeyword : Text.eqIgnoringCase keyword "ELSE IF ".toList = true)
    (hscript : directiveLines script = before ++ Text.trim (keyword ++ condition) :: after)
    (hother : directiveLines other = before ++ Text.trim (keyword ++ condition') :: after)
    (hreached : Effect.outcome (steps host .start before) start = (.ok progress, left))
    (hmatched : progress.nesting.top.matched = true)
    (hassign : progress.nesting.top.suppressed = false → ∀ name,
      (left.1.assigned condition).bindings.get? name =
        (left.1.assigned condition').bindings.get? name) :
    ((Session.run script).run start).1 = ((Session.run other).run start).1 ∧
      Alike ((Session.run script).run start).2 ((Session.run other).run start).2 := by
  have hbottom : progress.nesting.bottom.matched = false := by
    rw [bottom_steps hreached]
    rfl
  have hfirst := step_branchLine condition left.1 left.2 hkeyword hbottom hmatched
  have hsecond := step_branchLine condition' left.1 left.2 hkeyword hbottom hmatched
  have hrest : Effect.Respects Alike (steps host (progress.atLevel .dead) after) :=
    respects_steps (progress.atLevel .dead) after
  show ((Script.reply host script).run start).1 = ((Script.reply host other).run start).1 ∧
    Alike ((Script.reply host script).run start).2 ((Script.reply host other).run start).2
  rw [reply_eq, reply_eq, hscript, hother, steps_append, steps_append,
    Effect.outcome_bind_of_ok hreached, Effect.outcome_bind_of_ok hreached, steps_cons, steps_cons,
    Effect.outcome_bind_of_ok hfirst, Effect.outcome_bind_of_ok hsecond]
  -- Both lines lead to the same progress; what is left to compare are the sessions there.
  by_cases hskipped : progress.nesting.top.suppressed = true
  · rw [if_pos hskipped, if_pos hskipped]
    exact ⟨rfl, rfl, fun _ => rfl, rfl⟩
  · rw [if_neg hskipped, if_neg hskipped]
    have hactive : progress.nesting.top.suppressed = false := by simpa using hskipped
    have hended := hrest (left.1.assigned condition, left.2) (left.1.assigned condition', left.2)
      ⟨rfl, hassign hactive, rfl⟩
    exact ⟨congrArg replyOf hended.1, hended.2⟩

/-- A taken branch, and a condition behind it that reads a variable. -/
def readingScript : Text :=
  "IF 1 == 1\nSAY a\nELSE IF {{getvar::x}} == 1\nSAY b\nEND".toList

/-- The same with a condition that draws a number in its place. -/
def drawingScript : Text :=
  "IF 1 == 1\nSAY a\nELSE IF RANDOM < 1\nSAY b\nEND".toList

theorem decided_condition_inert_readingScript :
    ((Session.run readingScript).run (.empty, ⟨fun _ => .zero, 0⟩)).1 =
        ((Session.run drawingScript).run (.empty, ⟨fun _ => .zero, 0⟩)).1 ∧
      Alike ((Session.run readingScript).run (.empty, ⟨fun _ => .zero, 0⟩)).2
        ((Session.run drawingScript).run (.empty, ⟨fun _ => .zero, 0⟩)).2 := by
  have hreading : directiveLines readingScript =
      ["IF 1 == 1".toList, "SAY a".toList] ++
        Text.trim ("ELSE IF ".toList ++ "{{getvar::x}} == 1".toList) ::
          ["SAY b".toList, "END".toList] := by
    decide +kernel
  have hdrawing : directiveLines drawingScript =
      ["IF 1 == 1".toList, "SAY a".toList] ++
        Text.trim ("ELSE IF ".toList ++ "RANDOM < 1".toList) ::
          ["SAY b".toList, "END".toList] := by
    decide +kernel
  have htaken : (Effect.outcome (steps host .start ["IF 1 == 1".toList, "SAY a".toList])
      (.empty, ⟨fun _ => .zero, 0⟩)).1.toOption.map (fun reached => reached.nesting.top) =
        some (.branch true) := by
    decide +kernel
  have hnone : Placeholder.assignments "{{getvar::x}} == 1".toList = [] := by decide +kernel
  have hnone' : Placeholder.assignments "RANDOM < 1".toList = [] := by decide +kernel
  rcases hreached : Effect.outcome (steps host .start ["IF 1 == 1".toList, "SAY a".toList])
    (.empty, ⟨fun _ => .zero, 0⟩) with ⟨failure | reached, left⟩
  · rw [hreached] at htaken
    cases htaken
  · rw [hreached] at htaken
    have htop : reached.nesting.top = .branch true := Option.some.inj htaken
    refine decided_condition_inert (by decide) hreading hdrawing hreached ?_ ?_
    · rw [htop]
      rfl
    · intro _ name
      unfold assigned
      rw [hnone, hnone']

/-- A taken branch, and a condition behind it that sets a variable. -/
def assigningScript : Text :=
  "IF 1 == 1\nSAY a\nELSE IF {{setvar::x::1}}1 == 1\nSAY b\nEND".toList

/-- The same with a condition that sets none. -/
def comparingScript : Text :=
  "IF 1 == 1\nSAY a\nELSE IF 1 == 1\nSAY b\nEND".toList

/-- The line that ends the taken branch is met as an active one, and sets its variable. -/
theorem assigningScript_sets_variable :
    directiveLines assigningScript =
      ["IF 1 == 1".toList, "SAY a".toList] ++
        Text.trim ("ELSE IF ".toList ++ "{{setvar::x::1}}1 == 1".toList) ::
          ["SAY b".toList, "END".toList] ∧
    directiveLines comparingScript =
      ["IF 1 == 1".toList, "SAY a".toList] ++
        Text.trim ("ELSE IF ".toList ++ "1 == 1".toList) :: ["SAY b".toList, "END".toList] ∧
    (Effect.outcome (steps host .start ["IF 1 == 1".toList, "SAY a".toList])
        (.empty, ⟨fun _ => .zero, 0⟩)).1.toOption.map Progress.nesting =
      some (Nesting.base.push (.branch true)) ∧
    ((Session.run assigningScript).run (.empty, ⟨fun _ => .zero, 0⟩)).2.1.bindings.get?
        "x".toList = some "1".toList ∧
    ((Session.run comparingScript).run (.empty, ⟨fun _ => .zero, 0⟩)).2.1.bindings.get?
        "x".toList = none := by
  decide +kernel

end Session

end LineScript
