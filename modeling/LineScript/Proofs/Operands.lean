/-
What operands stand for.

In a session an operand stands for a value when resolving it gives the value and changes nothing.
A literal stands for what it spells, and what a stored text spells it spells as a literal too, once
the blanks around it are gone.  A name that can be referred to stands for what its stored text
spells, or for 0.
-/
import LineScript.Proofs.Calls
import LineScript.Proofs.ConditionParts
import LineScript.Proofs.Evaluation
import LineScript.Proofs.Storage

namespace LineScript

/-! ### Texts that spell a number or a truth value

All their characters are letters, digits, signs and points.  So such a text is one word of a
condition, and it has neither a placeholder nor the word for the last message in it.
-/

namespace Numeral

theorem not_mem_of_all_isFigure {text : Text} (h : text.all isFigure = true) {c : Char}
    (hc : isFigure c = false) : c ∉ text := by
  intro hmem
  rw [List.all_eq_true.mp h c hmem] at hc
  cases hc

private theorem isWordChar_of_isFigure {c : Char} (h : isFigure c = true) :
    Token.isWordChar c = true := by
  refine Token.isWordChar_eq_true_iff.mpr ⟨isBlank_of_isFigure h, ?_, ?_⟩
  · refine Bool.eq_false_iff.mpr fun hmark => ?_
    simp only [Token.isMark, Bool.or_eq_true, beq_iff_eq] at hmark
    rcases hmark with ((rfl | rfl) | rfl) | rfl <;> exact absurd h (by decide)
  · rintro rfl
    exact absurd h (by decide)

/-- A text that is written like a numeral is a word. -/
theorem wellFormed_word {text : Text} (hne : text ≠ []) (h : text.all isFigure = true) :
    (Token.word text).WellFormed := by
  refine ⟨hne, List.all_eq_true.mpr fun c hc => ?_⟩
  exact isWordChar_of_isFigure (List.all_eq_true.mp h c hc)

theorem occursIn_messageWord {text : Text} (h : text.all isFigure = true) :
    Text.occursIn Script.messageWord text = false :=
  Text.occursIn_eq_false_of_not_mem (c := '_') (by decide) (not_mem_of_all_isFigure h (by decide))

end Numeral

namespace Value

theorem eqIgnoringCase_of_boolean? {text : Text} {b : Bool} (h : boolean? text = some b) :
    text.eqIgnoringCase "true".toList = true ∨ text.eqIgnoringCase "false".toList = true := by
  unfold boolean? at h
  split at h
  · rename_i htrue
    exact Or.inl htrue
  · split at h
    · rename_i hfalse
      exact Or.inr hfalse
    · cases h

private theorem all_isFigure_of_boolean? {text : Text} {b : Bool} (h : boolean? text = some b) :
    text.all Numeral.isFigure = true := by
  rcases eqIgnoringCase_of_boolean? h with htrue | hfalse
  · exact Numeral.all_isFigure_of_eqIgnoringCase (by decide) htrue
  · exact Numeral.all_isFigure_of_eqIgnoringCase (by decide) hfalse

theorem ofText?_of_finiteNumber? {text : Text} {n : Number} (h : finiteNumber? text = some n) :
    Number.ofText? text.trim = some n :=
  (Option.filter_eq_some_iff.mp h).1

section

variable {raw : Text} {v : Value}

theorem all_isFigure_of_spelled? (h : spelled? raw = some v) :
    raw.trim.all Numeral.isFigure = true := by
  rcases spelled?_cases h with ⟨n, hn, -⟩ | ⟨b, -, hb, -⟩
  · obtain ⟨numeral, hnumeral, -⟩ := Option.map_eq_some_iff.mp (ofText?_of_finiteNumber? hn)
    exact Numeral.all_isFigure_of_ofText? hnumeral
  · exact all_isFigure_of_boolean? hb

theorem trim_ne_nil_of_spelled? (h : spelled? raw = some v) : raw.trim ≠ [] := by
  intro hnil
  rcases spelled?_cases h with ⟨n, hn, -⟩ | ⟨b, -, hb, -⟩
  · have hread := ofText?_of_finiteNumber? hn
    rw [hnil] at hread
    cases hread
  · rw [hnil] at hb
    cases hb

/-- What a text spells, it spells as a literal when the blanks around it are gone. -/
theorem ofLiteral?_trim (h : spelled? raw = some v) : ofLiteral? raw.trim = some v := by
  have hquote : '"' ∉ raw.trim :=
    Numeral.not_mem_of_all_isFigure (all_isFigure_of_spelled? h) (by decide)
  rw [ofLiteral?, Text.quoted?_eq_none hquote, finiteNumber?_trim]
  exact h

end

end Value

/-! ### Operators as tokens -/

/-- An operator as a token. -/
def Token.ofOperator (op : Text) : Token :=
  if op.all Token.isMark then .marks op else .word op

@[simp] theorem Token.text_ofOperator (op : Text) : (Token.ofOperator op).text = op := by
  unfold ofOperator
  split <;> rfl

/-- The operators that are written with marks. -/
def Operator.markRuns : List Text :=
  [['>'], ['<'], ['>', '='], ['<', '='], ['=', '='], ['='], ['!', '=']]

/-- What is read as an operator is a run of marks or a word of letters. -/
theorem Operator.mem_markRuns_or_all_isFigure {op : Text}
    (h : (Operator.ofText? op).isSome = true) :
    op ∈ markRuns ∨ op ≠ [] ∧ op.all Numeral.isFigure = true := by
  by_cases hmarks : op ∈ markRuns
  · exact Or.inl hmarks
  · simp only [markRuns, List.mem_cons, List.not_mem_nil, or_false, not_or] at hmarks
    simp only [Operator.ofText?, hmarks, if_false, or_self] at h
    split at h
    · rename_i hword
      refine Or.inr ⟨?_, ?_⟩
      · rintro rfl
        exact absurd hword (by decide)
      · rcases hword with hcontains | hhas
        · exact Numeral.all_isFigure_of_eqIgnoringCase (by decide) hcontains
        · exact Numeral.all_isFigure_of_eqIgnoringCase (by decide) hhas
    · cases h

/-- An operator is one token, with no brace in it, and not the word for the last message. -/
theorem Operator.wellFormed_and_plain {op : Text} (h : (Operator.ofText? op).isSome = true) :
    (Token.ofOperator op).WellFormed ∧ '{' ∉ op ∧
      Text.occursIn Script.messageWord op = false := by
  rcases Operator.mem_markRuns_or_all_isFigure h with hmarks | ⟨hne, hfigures⟩
  · have hall : ∀ op ∈ markRuns, (Token.ofOperator op).WellFormed ∧ '{' ∉ op ∧
        Text.occursIn Script.messageWord op = false := by
      decide
    exact hall op hmarks
  · refine ⟨?_, Numeral.not_mem_of_all_isFigure hfigures (by decide),
      Numeral.occursIn_messageWord hfigures⟩
    unfold Token.ofOperator
    split
    · rename_i hmarks
      exact ⟨hne, hmarks⟩
    · exact Numeral.wellFormed_word hne hfigures

/-! ### Names -/

/-- The name can be written as an operand, with braces around it or without, and nothing but a
variable is meant. -/
structure Referable (name : Text) : Prop where
  ne_nil : name ≠ []
  /-- The name is one word. -/
  all_isWordChar : name.all Token.isWordChar = true
  open_not_mem : '{' ∉ name
  close_not_mem : '}' ∉ name
  /-- It is no literal. -/
  finiteNumber?_eq : Value.finiteNumber? name = none
  boolean?_eq : Value.boolean? name = none
  /-- It does not ask for a random number. -/
  not_random : name.eqIgnoringCase "RANDOM".toList = false
  /-- The word for the last message is no part of it. -/
  no_message : Text.occursIn Script.messageWord name = false

instance : DecidablePred Referable := fun name =>
  decidable_of_iff
    (name ≠ [] ∧ name.all Token.isWordChar = true ∧ '{' ∉ name ∧ '}' ∉ name ∧
      Value.finiteNumber? name = none ∧ Value.boolean? name = none ∧
      name.eqIgnoringCase "RANDOM".toList = false ∧
      Text.occursIn Script.messageWord name = false)
    ⟨fun ⟨hne, hword, hopen, hclose, hnumber, hboolean, hrandom, hmessage⟩ =>
        ⟨hne, hword, hopen, hclose, hnumber, hboolean, hrandom, hmessage⟩,
      fun h => ⟨h.ne_nil, h.all_isWordChar, h.open_not_mem, h.close_not_mem, h.finiteNumber?_eq,
        h.boolean?_eq, h.not_random, h.no_message⟩⟩

namespace Referable

variable {name : Text} (h : Referable name)

include h

theorem wellFormed : (Token.word name).WellFormed :=
  ⟨h.ne_nil, h.all_isWordChar⟩

theorem trim_eq : name.trim = name := by
  refine Text.trim_of_not_blank fun c hc => ?_
  exact (Token.isWordChar_eq_true_iff.mp (List.all_eq_true.mp h.all_isWordChar c hc)).1

theorem not_mem {c : Char} (hc : Token.isWordChar c = false) : c ∉ name := by
  intro hmem
  rw [List.all_eq_true.mp h.all_isWordChar c hmem] at hc
  cases hc

theorem ofLiteral?_eq : Value.ofLiteral? name = none := by
  rw [Value.ofLiteral?, Text.quoted?_eq_none (h.not_mem (by decide)), h.finiteNumber?_eq,
    h.boolean?_eq]
  rfl

theorem variableName_eq : Condition.variableName name = name := by
  have hprefix : List.isPrefixOf? ['{', '{'] name = none := by
    cases name with
    | nil => rfl
    | cons c rest =>
      have hc : ('{' == c) = false := by
        rw [beq_eq_false_iff_ne]
        rintro rfl
        exact h.open_not_mem List.mem_cons_self
      simp [List.isPrefixOf?, hc]
  rw [Condition.variableName, hprefix]
  rfl

end Referable

/-! ### What operands stand for -/

namespace Session

open Condition Effect

/-- Resolving the operand gives the value and changes nothing. -/
def StandsFor (session : Session) (operand : Text) (v : Value) : Prop :=
  ∀ draws, outcome (resolve host.context operand) (session, draws) = (.ok v, (session, draws))

theorem standsFor_literal (session : Session) {operand : Text} {v : Value}
    (h : Value.ofLiteral? operand = some v) : session.StandsFor operand v := by
  intro draws
  rw [resolve_of_literal h]
  rfl

/-- A name stands for what its stored text spells, and for 0 when nothing is stored. -/
theorem standsFor_name (session : Session) {name : Text} (h : Referable name) :
    session.StandsFor name
      (((session.bindings.get? name).map Value.ofStored).getD (.num .zero)) := by
  intro draws
  rw [resolve_of_name h.ofLiteral?_eq h.not_random, h.variableName_eq]
  rfl

/-- The effect never fails, and leaves the session as it is; it may have drawn numbers. -/
def OnlyDraws {α : Type} (effect : Effect (Session × Draws) α) : Prop :=
  ∀ session draws, ∃ a left, outcome effect (session, draws) = (.ok a, (session, left))

theorem sequential_onlyDraws : Sequential fun _ effect => OnlyDraws effect where
  pure a := fun session draws => ⟨a, draws, rfl⟩
  bind := by
    intro α β effect next h hnext session draws
    obtain ⟨a, left, hfirst⟩ := h session draws
    rw [outcome_bind_of_ok hfirst]
    exact hnext a session left

private theorem onlyDraws_lookup (name : Text) : OnlyDraws (host.context.lookup name) :=
  fun session draws => ⟨(session.bindings.get? name).map Value.ofStored, draws, rfl⟩

private theorem onlyDraws_draw :
    OnlyDraws (liftM host.context.draw : Effect (Session × Draws) Number) :=
  fun _ draws => ⟨draws.next.1, draws.next.2, rfl⟩

theorem onlyDraws_resolve (operand : Text) : OnlyDraws (resolve host.context operand) :=
  @coupled_resolve _ _ _ host.context host.context sequential_onlyDraws.coupling onlyDraws_lookup
    onlyDraws_draw operand

theorem onlyDraws_evaluate (condition : Text) : OnlyDraws (evaluate host.context condition) :=
  @coupled_evaluate _ _ _ host.context host.context sequential_onlyDraws.coupling onlyDraws_lookup
    onlyDraws_draw condition

end Session

/-! ### One operand in another's place

Whatever else an operand is, resolving it draws numbers at most.  So two conditions come to the
same when they have the same tokens but for one operand, and the two operands stand for the same
value.
-/

namespace Condition

open Effect

/-- The tokens with a left operand of 0 in front of a leading operator. -/
def completed : List Token → List Token
  | .marks run :: rest => .word ['0'] :: .marks run :: rest
  | tokens => tokens

theorem operandsAndOperator_eq (condition : Text) :
    operandsAndOperator condition = completed (Token.scan condition) := rfl

/-- What is in front decides about a left operand, so tokens behind it stay behind. -/
theorem completed_append {tokens : List Token} (hne : tokens ≠ []) (more : List Token) :
    completed (tokens ++ more) = completed tokens ++ more := by
  obtain ⟨first, rest, rfl⟩ := List.exists_cons_of_ne_nil hne
  cases first <;> rfl

variable {session : Session} {condition other : Text} {v : Value} {operand replacement : Token}

/-- The left operand may be replaced by another that stands for the same value. -/
theorem evaluate_congr_left (hoperand : session.StandsFor operand.text v)
    (hreplacement : session.StandsFor replacement.text v) {rest : List Token}
    (htokens : operandsAndOperator condition = operand :: rest)
    (htokens' : operandsAndOperator other = replacement :: rest) (draws : Draws) :
    outcome (evaluate Session.host.context condition) (session, draws) =
      outcome (evaluate Session.host.context other) (session, draws) := by
  rw [evaluate_eq_take, evaluate_eq_take, htokens, htokens']
  rcases rest with _ | ⟨operator, _ | ⟨right, rest⟩⟩
  · rfl
  · rfl
  · simp only [List.take_succ_cons, List.take_zero]
    cases Operator.ofText? operator.text with
    | none => rfl
    | some op =>
      simp only
      rw [outcome_bind_of_ok (hoperand draws), outcome_bind_of_ok (hreplacement draws)]

/-- The last token may be replaced, if it comes to that operand at all. -/
theorem evaluate_congr_last (hoperand : session.StandsFor operand.text v)
    (hreplacement : session.StandsFor replacement.text v) {before : List Token}
    (htokens : operandsAndOperator condition = before ++ [operand])
    (htokens' : operandsAndOperator other = before ++ [replacement]) (draws : Draws) :
    outcome (evaluate Session.host.context condition) (session, draws) =
      outcome (evaluate Session.host.context other) (session, draws) := by
  rw [evaluate_eq_take, evaluate_eq_take, htokens, htokens']
  -- With fewer than two tokens in front nothing is compared, with three the last is ignored.
  rcases before with _ | ⟨left, _ | ⟨operator, _ | ⟨right, rest⟩⟩⟩
  · rfl
  · rfl
  · simp only [List.cons_append, List.nil_append, List.take_succ_cons, List.take_zero]
    cases Operator.ofText? operator.text with
    | none => rfl
    | some op =>
      obtain ⟨l, between, hleft⟩ := Session.onlyDraws_resolve left.text session draws
      simp only
      rw [outcome_bind_of_ok hleft, outcome_bind_of_ok hleft,
        outcome_bind_of_ok (hoperand between), outcome_bind_of_ok (hreplacement between)]
  · rfl

/-- What operands stand for, the operator compares. -/
theorem outcome_evaluate_of_standsFor {left right operator : Token} {l r : Value} {op : Operator}
    {rest : List Token}
    (htokens : operandsAndOperator condition = left :: operator :: right :: rest)
    (hoperator : Operator.ofText? operator.text = some op) (hleft : session.StandsFor left.text l)
    (hright : session.StandsFor right.text r) (draws : Draws) :
    outcome (evaluate Session.host.context condition) (session, draws) =
      (.ok (op.holds l r), (session, draws)) := by
  rw [evaluate_of_compares ⟨operator, rest, htokens, hoperator⟩, outcome_bind_of_ok (hleft draws),
    outcome_bind_of_ok (hright draws)]
  rfl

end Condition

end LineScript
