/-
Naming a variable and reading it into the line.

A condition may name a variable, or hold a placeholder that reads it.  A name is looked up when
the condition is decided, and what is looked up is what the stored text spells.  A placeholder is
replaced by the stored text as it stands, with the blanks around it, and the line is read after
that.  When the text spells a number or a truth value the two come to the same: without its blanks
the text is one token, and as a literal it stands for what it spells.
-/
import LineScript.Proofs.ComparisonLines

namespace LineScript

namespace Session

open Condition Effect Placeholder Script

variable {session : Session} {name op : Text} {operand : Token} {v : Value}

/-! ### The same branch -/

/-- Met as lines of an active block in the session, both lines open a block at the same branch.
They leave the session as it is, and draw the same numbers. -/
def SameBranch (session : Session) (first second : Text) : Prop :=
  ∀ progress : Progress, progress.nesting.top.suppressed = false → ∀ draws, ∃ taken left,
    outcome (step host progress first) (session, draws) =
        (.ok (progress.opening (.branch taken)), (session, left)) ∧
      outcome (step host progress second) (session, draws) =
        (.ok (progress.opening (.branch taken)), (session, left))

private theorem sameBranch_of_decidesBy {first second condition condition' : Text}
    (hfirst : session.DecidesBy first condition) (hsecond : session.DecidesBy second condition')
    (h : ∀ draws, outcome (evaluate host.context condition) (session, draws) =
      outcome (evaluate host.context condition') (session, draws)) :
    session.SameBranch first second := by
  intro progress hactive draws
  obtain ⟨taken, left, hdecided⟩ := onlyDraws_evaluate condition session draws
  refine ⟨taken, left, ?_, ?_⟩
  · rw [hfirst progress hactive, outcome_bind_of_ok hdecided]
    rfl
  · rw [hsecond progress hactive, outcome_bind_of_ok ((h draws).symm.trans hdecided)]
    rfl

/-! ### Operands of one token -/

/-- Blanks around a stored text count for nothing, and without them it is a literal. -/
theorem isOperand_reading {raw : Text} (h : Referable name)
    (hraw : session.bindings.get? name = some raw) (hspelled : Value.spelled? raw = some v) :
    session.IsOperand (reading name) (.word raw.trim) v where
  exists_replaced := by
    have hfigures := Value.all_isFigure_of_spelled? hspelled
    have hquote : '"' ∉ raw := fun hmem =>
      Numeral.not_mem_of_all_isFigure hfigures (by decide)
        (Text.mem_trim_of_mem (by decide) hmem)
    refine ⟨raw, ?_, ?_, ?_⟩
    · have hreading := expandsTo_reading session.history.last session.bindings h
      rw [hraw] at hreading
      exact hreading
    · rw [List.count_eq_zero.mpr hquote]
    · rw [← tokensWith_trim]
      exact tokensWith_text _
        (Numeral.wellFormed_word (Value.trim_ne_nil_of_spelled? hspelled) hfigures)
        (Numeral.occursIn_messageWord hfigures)
  completed_eq := rfl
  standsFor := session.standsFor_literal (Value.ofLiteral?_trim hspelled)

section

variable {first second : Text} {token token' : Token}

/-- Left operands that stand for the same value decide on the same branch. -/
theorem sameBranch_left (hfirst : session.IsOperand first token v)
    (hsecond : session.IsOperand second token' v) (hop : (Operator.ofText? op).isSome = true)
    (hplain : Text.occursIn opener operand.text = false) :
    session.SameBranch (ifLine (comparison first op operand.text))
      (ifLine (comparison second op operand.text)) := by
  obtain ⟨condition, hdecides, htokens⟩ := hfirst.exists_decidesBy_left hop hplain
  obtain ⟨condition', hdecides', htokens'⟩ := hsecond.exists_decidesBy_left hop hplain
  exact sameBranch_of_decidesBy hdecides hdecides'
    (evaluate_congr_left hfirst.standsFor hsecond.standsFor htokens htokens')

/-- Right operands that stand for the same value decide on the same branch. -/
theorem sameBranch_right (hfirst : session.IsOperand first token v)
    (hsecond : session.IsOperand second token' v) (hop : (Operator.ofText? op).isSome = true)
    (hoperand : operand.WellFormed) (hplain : Text.occursIn opener operand.text = false) :
    session.SameBranch (ifLine (comparison operand.text op first))
      (ifLine (comparison operand.text op second)) := by
  have hquotes := Stretch.count_quote_text hoperand
  obtain ⟨condition, hdecides, htokens⟩ := hfirst.exists_decidesBy_right hop hquotes hplain
  obtain ⟨condition', hdecides', htokens'⟩ := hsecond.exists_decidesBy_right hop hquotes hplain
  exact sameBranch_of_decidesBy hdecides hdecides'
    (evaluate_congr_last hfirst.standsFor hsecond.standsFor htokens htokens')

end

/-! ### A placeholder that vanishes

When nothing is stored the placeholder is replaced by nothing.  In front of a run of marks the
condition gets a left operand of 0, which is what the name would have stood for.
-/

/-- When nothing is left of the left operand, a run of marks gets 0 in front of it. -/
theorem exists_decidesBy_vanished (h : Referable name) (hnone : session.bindings.get? name = none)
    (hop : (Operator.ofText? op).isSome = true) (hmarks : op.all Token.isMark = true)
    (hplain : Text.occursIn opener operand.text = false) :
    ∃ condition, session.DecidesBy (ifLine (comparison (reading name) op operand.text)) condition ∧
      operandsAndOperator condition =
        .word ['0'] :: Token.ofOperator op :: tokensWith session.history.last operand.text := by
  have hreading := expandsTo_reading session.history.last session.bindings h
  rw [hnone] at hreading
  obtain ⟨condition, hdecides, htokens⟩ :=
    session.exists_decidesBy_comparison hreading (expandsTo_self _ _ hplain) hop rfl
  have hvanished : tokensWith session.history.last (none.getD []) = [] := Token.scan.eq_1
  refine ⟨condition, hdecides, ?_⟩
  rw [htokens, hvanished, Token.ofOperator, if_pos hmarks]
  rfl

/-- **A variable that holds a number or a truth value may be named or read into the line.**  On
either side of any operator, against any token without a placeholder, both lines open a block at
the same branch.  On the left of a run of marks they also do when the variable is not set. -/
theorem reading_agrees_with_name (hname : Referable name)
    (hop : (Operator.ofText? op).isSome = true) (hoperand : operand.WellFormed)
    (hplain : Text.occursIn opener operand.text = false) (session : Session) :
    (∀ raw, session.bindings.get? name = some raw → (∀ text, Value.ofStored raw ≠ .str text) →
      session.SameBranch (ifLine (comparison (reading name) op operand.text))
          (ifLine (comparison name op operand.text)) ∧
        session.SameBranch (ifLine (comparison operand.text op (reading name)))
          (ifLine (comparison operand.text op name))) ∧
    (session.bindings.get? name = none → op.all Token.isMark = true →
      session.SameBranch (ifLine (comparison (reading name) op operand.text))
        (ifLine (comparison name op operand.text))) := by
  have hlookup := session.isOperand_name hname
  constructor
  · intro raw hraw hcoerced
    rw [hraw] at hlookup
    cases hspelled : Value.spelled? raw with
    | none =>
      have hstr := Value.ofStored_eq raw
      rw [hspelled] at hstr
      exact absurd hstr (hcoerced raw)
    | some v =>
      have hvalue : ((some raw).map Value.ofStored).getD (.num .zero) = v := by
        show Value.ofStored raw = v
        rw [Value.ofStored_eq, hspelled]
        rfl
      rw [hvalue] at hlookup
      have hread := isOperand_reading hname hraw hspelled
      exact ⟨sameBranch_left hread hlookup hop hplain,
        sameBranch_right hread hlookup hop hoperand hplain⟩
  · intro hnone hmarks
    rw [hnone] at hlookup
    have hzero : session.StandsFor (Token.word ['0']).text (.num .zero) :=
      session.standsFor_literal rfl
    obtain ⟨condition, hdecides, htokens⟩ :=
      exists_decidesBy_vanished hname hnone hop hmarks hplain
    obtain ⟨condition', hdecides', htokens'⟩ := hlookup.exists_decidesBy_left hop hplain
    exact sameBranch_of_decidesBy hdecides hdecides'
      (evaluate_congr_left hzero hlookup.standsFor htokens htokens')

/-- A number that is stored with blanks around it, and a message with a quote in it. -/
def spacedSession : Session :=
  (empty.setVariable "hp".toList " 7.50\n".toList).recordMessage "8 > \"7".toList

theorem reading_agrees_with_name_spacedSession :
    Referable "hp".toList ∧ (Token.word messageWord).WellFormed ∧
      spacedSession.bindings.get? "hp".toList = some " 7.50\n".toList ∧
      spacedSession.SameBranch (ifLine "{{getvar::hp}} HAS LAST_MESSAGE".toList)
        (ifLine "hp HAS LAST_MESSAGE".toList) ∧
      spacedSession.SameBranch (ifLine "LAST_MESSAGE HAS {{getvar::hp}}".toList)
        (ifLine "LAST_MESSAGE HAS hp".toList) ∧
      empty.SameBranch (ifLine "{{getvar::hp}} != LAST_MESSAGE".toList)
        (ifLine "hp != LAST_MESSAGE".toList) := by
  have hname : Referable "hp".toList := by decide +kernel
  have hword : (Token.word messageWord).WellFormed := by decide
  have hplain : Text.occursIn opener (Token.word messageWord).text = false := by decide
  have hraw : spacedSession.bindings.get? "hp".toList = some " 7.50\n".toList := by decide
  have hcoerced : ∀ text, Value.ofStored " 7.50\n".toList ≠ .str text := by
    intro text htext
    have hkind : (Value.ofStored " 7.50\n".toList).kind = "number".toList := by decide +kernel
    rw [htext] at hkind
    have hkinds : "string".toList ≠ "number".toList := by decide
    exact hkinds hkind
  have hhas : (Operator.ofText? "HAS".toList).isSome = true := by decide
  have hne : (Operator.ofText? "!=".toList).isSome = true := by decide
  have hset := (reading_agrees_with_name hname hhas hword hplain spacedSession).1 _ hraw
    hcoerced
  have hunset := (reading_agrees_with_name hname hne hword hplain empty).2 rfl (by decide)
  exact ⟨hname, hword, hraw, hset.1, hset.2, hunset⟩

/-- Behind an operator, a placeholder that vanishes leaves the condition without an operand. -/
example :
    (outcome (step host .start (ifLine "0 == {{getvar::hp}}".toList))
        (empty, ⟨fun _ => .zero, 0⟩)).1.toOption.map Progress.nesting =
          some (Nesting.base.push (.branch false)) ∧
      (outcome (step host .start (ifLine "0 == hp".toList))
        (empty, ⟨fun _ => .zero, 0⟩)).1.toOption.map Progress.nesting =
          some (Nesting.base.push (.branch true)) := by
  decide +kernel

end Session

end LineScript
