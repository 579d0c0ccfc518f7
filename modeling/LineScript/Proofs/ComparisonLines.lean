/-
Lines that compare two operands.

The operands of a line are texts, and their placeholders are replaced before anything is read.
What becomes of an operand does not depend on what stands behind it, so a line that compares two of
them has, after that, the tokens of the one, the operator and the tokens of the other.
-/
import LineScript.Proofs.Headed
import LineScript.Proofs.Operands

namespace LineScript

/-! ### Placeholders in operands

`ExpandsTo` asks for the same replacement whatever stands behind, so that two operands with an
operator between them are replaced one after the other.  Only a brace is not allowed there, which
could make a placeholder together with one at the end of the operand.
-/

namespace Placeholder

/-- Replacing the placeholders of a text turns it into the other and changes no variable, whatever
stands behind it. -/
def ExpandsTo (last : Text) (bindings : Variables) (text replaced : Text) : Prop :=
  ∀ rest : Text, rest.head? ≠ some '{' →
    expand last bindings (text ++ rest) =
      (replaced ++ (expand last bindings rest).1, (expand last bindings rest).2)

variable (last : Text) (bindings : Variables)

theorem expandsTo_self {text : Text} (h : Text.occursIn opener text = false) :
    ExpandsTo last bindings text text := by
  intro rest hrest
  unfold expand expandIn
  rw [pieces_append_of_not_occursIn h fun hmeet => hrest hmeet.2, replaceAllIn_append,
    replaceAllIn_char]

theorem expandsTo_of_not_mem {text : Text} (h : '{' ∉ text) : ExpandsTo last bindings text text :=
  expandsTo_self last bindings (Text.occursIn_eq_false_of_not_mem List.mem_cons_self h)

/-- The placeholder that reads a variable. -/
def reading (name : Text) : Text :=
  opener ++ "getvar::".toList ++ name ++ ['}', '}']

theorem expandsTo_reading {name : Text} (h : Referable name) :
    ExpandsTo last bindings (reading name) ((bindings.get? name).getD []) := by
  intro rest _
  have hclose : '}' ∉ "getvar::".toList ++ name := by
    rw [List.mem_append, not_or]
    exact ⟨by decide, h.close_not_mem⟩
  have hline : '\n' ∉ "getvar::".toList ++ name := by
    rw [List.mem_append, not_or]
    exact ⟨by decide, h.not_mem (by decide)⟩
  have hwhole : reading name ++ rest = enclosed ("getvar::".toList ++ name) ++ rest := by
    simp only [reading, enclosed, closer, List.append_assoc]
  rw [hwhole, expand_reading_append (isBody_of_not_mem hclose hline), h.trim_eq]

/-- The operands of a comparison have their placeholders replaced, one after the other. -/
theorem expand_comparison {left right op left' right' : Text}
    (hleft : ExpandsTo last bindings left left') (hright : ExpandsTo last bindings right right')
    (hop : '{' ∉ op) :
    expand last bindings (Script.comparison left op right) =
      (Script.comparison left' op right', bindings) := by
  have hmiddle : '{' ∉ ' ' :: op ++ [' '] := by
    simpa using hop
  have hend := hright [] (by simp)
  rw [expand_of_not_mem last bindings List.not_mem_nil, List.append_nil, List.append_nil] at hend
  have hbehind : expand last bindings (' ' :: (op ++ ' ' :: right)) =
      (' ' :: (op ++ ' ' :: right'), bindings) := by
    have happend := expand_append last bindings hmiddle right
    rw [hend] at happend
    simpa using happend
  rw [Script.comparison, hleft _ (by simp), hbehind]
  rfl

end Placeholder

/-! ### Lines that open a block -/

namespace Session

open Condition Effect Script

/-- A line that opens a block. -/
def ifLine (condition : Text) : Text :=
  "IF ".toList ++ condition

variable {session : Session} {progress : Progress}

/-- Placeholders that set no variable leave the session as it is. -/
theorem outcome_substitute {line replaced : Text}
    (h : Placeholder.expand session.history.last session.bindings line =
      (replaced, session.bindings)) (draws : Draws) :
    outcome (host.substitute line) (session, draws) = (.ok replaced, (session, draws)) := by
  show (Except.ok (Placeholder.expand _ _ line).1,
    ({ session with bindings := (Placeholder.expand _ _ line).2 }, draws)) = _
  rw [h]

/-- A condition is decided with the last message in it. -/
theorem outcome_decideCondition (session : Session) (draws : Draws) (condition : Text) :
    outcome (decideCondition host condition) (session, draws) =
      outcome (evaluate host.context (withMessage session.history.last condition))
        (session, draws) := by
  unfold decideCondition
  split
  · have hmessage : outcome (liftM host.lastMessage : Effect (Session × Draws) Text)
        (session, draws) = (.ok session.history.last, (session, draws)) := rfl
    exact outcome_bind_of_ok hmessage _
  · rename_i hword
    rw [withMessage, Text.replaceAll_of_not_occursIn (by simpa using hword)]

private theorem block_ifLine (condition : Text) :
    Block.ofLine? (ifLine condition) = some (.opening condition.trim) := rfl

/-- An active line that opens a block decides what its condition has become. -/
theorem outcome_step_ifLine (hactive : progress.nesting.top.suppressed = false)
    {condition replaced : Text}
    (hexpand : Placeholder.expand session.history.last session.bindings condition =
      (replaced, session.bindings)) (hne : replaced.trim ≠ []) (draws : Draws) :
    outcome (step host progress (ifLine condition)) (session, draws) =
      outcome (evaluate host.context (withMessage session.history.last replaced.trim) >>=
        fun taken => pure (progress.opening (.branch taken))) (session, draws) := by
  have hline : Placeholder.expand session.history.last session.bindings (ifLine condition) =
      (ifLine replaced, session.bindings) := by
    rw [ifLine, Placeholder.expand_append _ _ (by decide), hexpand, ifLine]
  have hsubstitute := outcome_substitute hline draws
  have htrim : (ifLine replaced).trim = ifLine replaced.trimEnd := by
    have hhead := Text.trim_cons_append (c := 'I') rfl ['F', ' '] replaced
    rw [if_neg hne] at hhead
    exact hhead
  have hdirective : Directive.ofLine (ifLine replaced).trim = .block (.opening replaced.trim) := by
    rw [htrim]
    refine Directive.ofLine_of_block ?_
    rw [block_ifLine, Text.trim_trimEnd]
  have hcarry : carryOut host progress (ifLine replaced).trim =
      decideCondition host replaced.trim >>= fun taken =>
        pure (progress.opening (.branch taken)) := by
    unfold carryOut carryOutBy
    rw [hdirective]
  rw [step_of_active host hactive, outcome_bind_of_ok hsubstitute, hcarry, outcome_bind,
    outcome_decideCondition, ← outcome_bind]

/-- Met as a line of an active block, the line opens a block at the branch that the condition
decides. -/
def DecidesBy (session : Session) (line condition : Text) : Prop :=
  ∀ progress : Progress, progress.nesting.top.suppressed = false → ∀ draws,
    outcome (step host progress line) (session, draws) =
      outcome (evaluate host.context condition >>=
        fun taken => pure (progress.opening (.branch taken))) (session, draws)

/-- **A line that compares two operands decides on their tokens**, after their placeholders are
replaced and with the last message in them. -/
theorem exists_decidesBy_comparison (session : Session) {left right op left' right' : Text}
    (hleft : Placeholder.ExpandsTo session.history.last session.bindings left left')
    (hright : Placeholder.ExpandsTo session.history.last session.bindings right right')
    (hop : (Operator.ofText? op).isSome = true) (hquotes : left'.count '"' % 2 = 0) :
    ∃ condition, session.DecidesBy (ifLine (comparison left op right)) condition ∧
      operandsAndOperator condition =
        completed (tokensWith session.history.last left' ++
          Token.ofOperator op :: tokensWith session.history.last right') := by
  obtain ⟨hwell, hbrace, hword⟩ := Operator.wellFormed_and_plain hop
  have htokens := tokensWith_comparison session.history.last hquotes hwell
    (by rwa [Token.text_ofOperator]) right'
  rw [Token.text_ofOperator] at htokens
  have hne : (comparison left' op right').trim ≠ [] := by
    intro hnil
    have hnone : tokensWith session.history.last (comparison left' op right').trim = [] := by
      rw [hnil]
      exact Token.scan.eq_1
    rw [tokensWith_trim, htokens] at hnone
    simp at hnone
  refine ⟨withMessage session.history.last (comparison left' op right').trim, ?_, ?_⟩
  · intro progress hactive draws
    exact outcome_step_ifLine hactive (Placeholder.expand_comparison _ _ hleft hright hbrace) hne
      draws
  · rw [operandsAndOperator_eq, ← htokens, ← tokensWith_trim]
    rfl

/-! ### Operands of one token

The simplest operand becomes one token.  Then the condition begins with this token, or ends with
it, and what the token stands for is what is compared.
-/

/-- Its placeholders replaced, the text is one token, which stands for the value. -/
structure IsOperand (session : Session) (text : Text) (token : Token) (v : Value) : Prop where
  exists_replaced : ∃ replaced,
    Placeholder.ExpandsTo session.history.last session.bindings text replaced ∧
      replaced.count '"' % 2 = 0 ∧ tokensWith session.history.last replaced = [token]
  /-- The token is no run of marks, so nothing is put in front of it. -/
  completed_eq : completed [token] = [token]
  standsFor : session.StandsFor token.text v

theorem isOperand_name (session : Session) {name : Text} (h : Referable name) :
    session.IsOperand name (.word name)
      (((session.bindings.get? name).map Value.ofStored).getD (.num .zero)) where
  exists_replaced := by
    refine ⟨name, Placeholder.expandsTo_of_not_mem _ _ h.open_not_mem, ?_,
      tokensWith_text _ h.wellFormed h.no_message⟩
    rw [List.count_eq_zero.mpr (h.not_mem (by decide))]
  completed_eq := rfl
  standsFor := session.standsFor_name h

section

variable {text op other : Text} {token : Token} {v : Value}

/-- With an operand of one token on the left, the condition begins with this token. -/
theorem IsOperand.exists_decidesBy_left (h : session.IsOperand text token v)
    (hop : (Operator.ofText? op).isSome = true)
    (hplain : Text.occursIn Placeholder.opener other = false) :
    ∃ condition, session.DecidesBy (ifLine (comparison text op other)) condition ∧
      operandsAndOperator condition =
        token :: Token.ofOperator op :: tokensWith session.history.last other := by
  obtain ⟨replaced, hexpands, hquotes, htoken⟩ := h.exists_replaced
  obtain ⟨condition, hdecides, htokens⟩ :=
    session.exists_decidesBy_comparison hexpands (Placeholder.expandsTo_self _ _ hplain) hop hquotes
  refine ⟨condition, hdecides, ?_⟩
  rw [htokens, htoken, completed_append (List.cons_ne_nil _ _), h.completed_eq]
  rfl

/-- With an operand of one token on the right, the condition ends with this token. -/
theorem IsOperand.exists_decidesBy_right (h : session.IsOperand text token v)
    (hop : (Operator.ofText? op).isSome = true) (hquotes : other.count '"' % 2 = 0)
    (hplain : Text.occursIn Placeholder.opener other = false) :
    ∃ condition, session.DecidesBy (ifLine (comparison other op text)) condition ∧
      operandsAndOperator condition =
        completed (tokensWith session.history.last other ++ [Token.ofOperator op]) ++ [token] := by
  obtain ⟨replaced, hexpands, -, htoken⟩ := h.exists_replaced
  obtain ⟨condition, hdecides, htokens⟩ :=
    session.exists_decidesBy_comparison (Placeholder.expandsTo_self _ _ hplain) hexpands hop hquotes
  refine ⟨condition, hdecides, ?_⟩
  have hne : tokensWith session.history.last other ++ [Token.ofOperator op] ≠ [] := by
    simp
  rw [htokens, htoken, List.append_cons, completed_append hne]

end

end Session

end LineScript
