/-
What deciding a condition asks of its context.

A condition that compares nothing is false, and nothing is asked.  Otherwise the left operand is
resolved and then the right one, each by one call at most, and the operator decides.  A lookup
that fails ends it there.  These are rules, and they are stated as such: `Resolves` for an
operand, `Evaluates` for a condition, each with the calls made, the result and the state left.

Evaluation does what the rules say and nothing else, from every state and in every context.  The
calls are seen by giving evaluation a context that lists them, which is a context like any other.
-/
import LineScript.Proofs.Outcome

namespace LineScript

namespace Condition

open Effect

variable {σ : Type}

/-- The context that does the same and lists its calls. -/
def Context.recorded (context : Context σ) : Context (List Call × σ) where
  lookup name := Host.noting (.lookup name) (context.lookup name).run
  draw := Host.noting .draw context.draw

/-! ### The rules -/

/-- How an operand is resolved in a state: the calls made, what comes of it, and the state left. -/
inductive Resolves (context : Context σ) (operand : Text) (state : σ) :
    List Call → Except Failure Value → σ → Prop
  /-- A quoted text stands for what is between its quotes. -/
  | quoted {inner : Text} (hquoted : operand = '"' :: inner ++ ['"']) :
    Resolves context operand state [] (.ok (.str inner)) state
  /-- A finite number stands for itself. -/
  | number {n : Number} (hquoted : operand.quoted? = none)
    (hnumber : Value.finiteNumber? operand = some n) :
    Resolves context operand state [] (.ok (.num n)) state
  /-- A truth value stands for itself. -/
  | boolean {b : Bool} (hquoted : operand.quoted? = none)
    (hnumber : Value.finiteNumber? operand = none) (hboolean : Value.boolean? operand = some b) :
    Resolves context operand state [] (.ok (.bool b)) state
  /-- The word for a random number draws one. -/
  | random {n : Number} {left : σ} (hliteral : Value.ofLiteral? operand = none)
    (hrandom : operand.eqIgnoringCase "RANDOM".toList = true)
    (hdraw : context.draw.run state = (n, left)) :
    Resolves context operand state [.draw] (.ok (.num n)) left
  /-- Any other operand is looked up; a variable that is not set counts as 0. -/
  | found {value? : Option Value} {left : σ} (hliteral : Value.ofLiteral? operand = none)
    (hrandom : operand.eqIgnoringCase "RANDOM".toList = false)
    (hlookup : outcome (context.lookup (variableName operand)) state = (.ok value?, left)) :
    Resolves context operand state [.lookup (variableName operand)]
      (.ok (value?.getD (.num .zero))) left
  /-- The lookup fails. -/
  | failed {failure : Failure} {left : σ} (hliteral : Value.ofLiteral? operand = none)
    (hrandom : operand.eqIgnoringCase "RANDOM".toList = false)
    (hlookup : outcome (context.lookup (variableName operand)) state = (.error failure, left)) :
    Resolves context operand state [.lookup (variableName operand)] (.error failure) left

/-- The condition compares two operands. -/
def Compares (condition : Text) (left : Token) (op : Operator) (right : Token) : Prop :=
  ∃ operator rest, operandsAndOperator condition = left :: operator :: right :: rest ∧
    Operator.ofText? operator.text = some op

/-- How a condition is decided in a state: the calls made, what comes of it, and the state left. -/
inductive Evaluates (context : Context σ) (condition : Text) (state : σ) :
    List Call → Except Failure Bool → σ → Prop
  /-- There are not enough tokens. -/
  | short (hlength : (operandsAndOperator condition).length < 3) :
    Evaluates context condition state [] (.ok false) state
  /-- The second token is no operator. -/
  | unknown {operator : Token} (hsecond : (operandsAndOperator condition)[1]? = some operator)
    (hoperator : Operator.ofText? operator.text = none) :
    Evaluates context condition state [] (.ok false) state
  /-- The left operand cannot be looked up, and the right one is not asked for. -/
  | leftFails {left right : Token} {op : Operator} {made : List Call} {failure : Failure}
    {final : σ} (hcompares : Compares condition left op right)
    (hleft : Resolves context left.text state made (.error failure) final) :
    Evaluates context condition state made (.error failure) final
  /-- The right operand cannot be looked up. -/
  | rightFails {left right : Token} {op : Operator} {made more : List Call} {l : Value}
    {failure : Failure} {between final : σ} (hcompares : Compares condition left op right)
    (hleft : Resolves context left.text state made (.ok l) between)
    (hright : Resolves context right.text between more (.error failure) final) :
    Evaluates context condition state (made ++ more) (.error failure) final
  /-- The operator decides between the two values. -/
  | decided {left right : Token} {op : Operator} {made more : List Call} {l r : Value}
    {between final : σ} (hcompares : Compares condition left op right)
    (hleft : Resolves context left.text state made (.ok l) between)
    (hright : Resolves context right.text between more (.ok r) final) :
    Evaluates context condition state (made ++ more) (.ok (op.holds l r)) final

/-! ### Every case has its rule -/

private theorem exists_resolves (context : Context σ) (operand : Text) (state : σ) :
    ∃ made result left, Resolves context operand state made result left := by
  cases hliteral : Value.ofLiteral? operand with
  | some value =>
    cases hquoted : operand.quoted? with
    | some inner => exact ⟨_, _, _, .quoted (Text.quoted?_eq_some_iff.mp hquoted)⟩
    | none =>
      cases hnumber : Value.finiteNumber? operand with
      | some n => exact ⟨_, _, _, .number hquoted hnumber⟩
      | none =>
        rw [Value.ofLiteral?, hquoted, hnumber] at hliteral
        obtain ⟨b, hboolean, -⟩ := Option.map_eq_some_iff.mp hliteral
        exact ⟨_, _, _, .boolean hquoted hnumber hboolean⟩
  | none =>
    by_cases hrandom : operand.eqIgnoringCase "RANDOM".toList = true
    · exact ⟨_, _, _, .random hliteral hrandom rfl⟩
    · rw [Bool.not_eq_true] at hrandom
      rcases hlookup : outcome (context.lookup (variableName operand)) state with
        ⟨failure | value?, left⟩
      · exact ⟨_, _, _, .failed hliteral hrandom hlookup⟩
      · exact ⟨_, _, _, .found hliteral hrandom hlookup⟩

theorem exists_evaluates (context : Context σ) (condition : Text) (state : σ) :
    ∃ made result left, Evaluates context condition state made result left := by
  rcases htokens : operandsAndOperator condition with _ | ⟨left, _ | ⟨operator, _ | ⟨right, rest⟩⟩⟩
  · exact ⟨_, _, _, .short (by simp [htokens])⟩
  · exact ⟨_, _, _, .short (by simp [htokens])⟩
  · exact ⟨_, _, _, .short (by simp [htokens])⟩
  · cases hoperator : Operator.ofText? operator.text with
    | none => exact ⟨_, _, _, .unknown (by rw [htokens]; rfl) hoperator⟩
    | some op =>
      have hcompares : Compares condition left op right := ⟨operator, rest, htokens, hoperator⟩
      obtain ⟨made, l, between, hleft⟩ := exists_resolves context left.text state
      cases l with
      | error failure => exact ⟨_, _, _, .leftFails hcompares hleft⟩
      | ok l =>
        obtain ⟨more, r, final, hright⟩ := exists_resolves context right.text between
        cases r with
        | error failure => exact ⟨_, _, _, .rightFails hcompares hleft hright⟩
        | ok r => exact ⟨_, _, _, .decided hcompares hleft hright⟩

/-! ### Evaluation keeps to the rules

`Makes` follows an effect and its recording side by side.  Of effects in sequence it says that the
calls of the second are made behind those of the first, so each rule is shown by putting together
what its calls make.
-/

/-- The effect gives the result and leaves the state, in a context and in the one that lists
its calls, where these are the calls made. -/
def Makes {α : Type} (effect : Effect σ α) (recording : Effect (List Call × σ) α) (state : σ)
    (made : List Call) (result : Except Failure α) (left : σ) : Prop :=
  outcome effect state = (result, left) ∧
    ∀ calls, outcome recording (calls, state) = (result, (calls ++ made, left))

section

variable {α β : Type} {effect : Effect σ α} {recording : Effect (List Call × σ) α}
  {state between left : σ} {made more : List Call}

theorem makes_pure (a : α) (state : σ) : Makes (pure a) (pure a) state [] (.ok a) state := by
  refine ⟨rfl, fun calls => ?_⟩
  rw [List.append_nil]
  rfl

theorem Makes.bind {a : α} {result : Except Failure β} {next : α → Effect σ β}
    {next' : α → Effect (List Call × σ) β} (h : Makes effect recording state made (.ok a) between)
    (hnext : Makes (next a) (next' a) between more result left) :
    Makes (effect >>= next) (recording >>= next') state (made ++ more) result left := by
  refine ⟨(outcome_bind_of_ok h.1 next).trans hnext.1, fun calls => ?_⟩
  rw [outcome_bind_of_ok (h.2 calls), hnext.2, List.append_assoc]

/-- Nothing follows a failure. -/
theorem Makes.bind_error {failure : Failure} {next : α → Effect σ β}
    {next' : α → Effect (List Call × σ) β}
    (h : Makes effect recording state made (.error failure) left) :
    Makes (effect >>= next) (recording >>= next') state made (.error failure) left := by
  refine ⟨?_, fun calls => ?_⟩
  · rw [outcome_bind, h.1]
  · rw [outcome_bind, h.2]

theorem Makes.map {a : α} {b : β} {f : α → β} (h : Makes effect recording state made (.ok a) left)
    (hb : f a = b) :
    Makes (effect >>= fun a => pure (f a)) (recording >>= fun a => pure (f a)) state made (.ok b)
      left := by
  subst hb
  have hbind : Makes (effect >>= fun a => pure (f a)) (recording >>= fun a => pure (f a)) state
      (made ++ []) (.ok (f a)) left := h.bind (makes_pure (f a) left)
  rw [List.append_nil] at hbind
  exact hbind

end

section

variable {context : Context σ} {condition operand : Text} {state left : σ} {made : List Call}

theorem makes_lookup {name : Text} {result : Except Failure (Option Value)}
    (h : outcome (context.lookup name) state = (result, left)) :
    Makes (context.lookup name) (context.recorded.lookup name) state [.lookup name] result
      left := by
  refine ⟨h, fun calls => ?_⟩
  show Host.noting (.lookup name) (context.lookup name).run (calls, state) = _
  have hrun : (context.lookup name).run.run state = (result, left) := h
  rw [Host.noting, hrun]

theorem makes_draw {n : Number} (h : context.draw.run state = (n, left)) :
    Makes (liftM context.draw) (liftM context.recorded.draw) state [.draw] (.ok n) left := by
  have hdraw : outcome (liftM context.draw : Effect σ Number) state =
      (.ok (context.draw.run state).1, (context.draw.run state).2) := rfl
  have hrecorded : ∀ calls, outcome (liftM context.recorded.draw : Effect (List Call × σ) Number)
      (calls, state) =
        (.ok (context.draw.run state).1, (calls ++ [.draw], (context.draw.run state).2)) :=
    fun _ => rfl
  rw [h] at hdraw hrecorded
  exact ⟨hdraw, hrecorded⟩

theorem resolve_of_literal {value : Value} (h : Value.ofLiteral? operand = some value)
    (context : Context σ) : resolve context operand = pure value := by
  rw [resolve, h]

theorem resolve_of_random (hliteral : Value.ofLiteral? operand = none)
    (hrandom : operand.eqIgnoringCase "RANDOM".toList = true) (context : Context σ) :
    resolve context operand = liftM context.draw >>= fun n => pure (.num n) := by
  rw [resolve, hliteral]
  simp only [hrandom, if_true]

theorem resolve_of_name (hliteral : Value.ofLiteral? operand = none)
    (hrandom : operand.eqIgnoringCase "RANDOM".toList = false) (context : Context σ) :
    resolve context operand =
      context.lookup (variableName operand) >>= fun value? => pure (value?.getD (.num .zero)) := by
  rw [resolve, hliteral]
  simp only [hrandom, Bool.false_eq_true, if_false]

theorem makes_resolve {result : Except Failure Value}
    (h : Resolves context operand state made result left) :
    Makes (resolve context operand) (resolve context.recorded operand) state made result left := by
  have hliteral : ∀ {value : Value}, Value.ofLiteral? operand = some value →
      Makes (resolve context operand) (resolve context.recorded operand) state [] (.ok value)
        state := by
    intro value hvalue
    rw [resolve_of_literal hvalue, resolve_of_literal hvalue]
    exact makes_pure value state
  cases h with
  | quoted hquoted =>
    exact hliteral (by rw [Value.ofLiteral?, Text.quoted?_eq_some_iff.mpr hquoted])
  | number hquoted hnumber => exact hliteral (by rw [Value.ofLiteral?, hquoted, hnumber])
  | boolean hquoted hnumber hboolean =>
    exact hliteral (by rw [Value.ofLiteral?, hquoted, hnumber, hboolean]; rfl)
  | random hnone hrandom hdraw =>
    rw [resolve_of_random hnone hrandom, resolve_of_random hnone hrandom]
    exact (makes_draw hdraw).map rfl
  | found hnone hrandom hlookup =>
    rw [resolve_of_name hnone hrandom, resolve_of_name hnone hrandom]
    exact (makes_lookup hlookup).map rfl
  | failed hnone hrandom hlookup =>
    rw [resolve_of_name hnone hrandom, resolve_of_name hnone hrandom]
    exact (makes_lookup hlookup).bind_error

theorem evaluate_of_compares {left right : Token} {op : Operator}
    (h : Compares condition left op right) (context : Context σ) :
    evaluate context condition =
      resolve context left.text >>= fun l =>
        resolve context right.text >>= fun r => pure (op.holds l r) := by
  obtain ⟨operator, rest, htokens, hoperator⟩ := h
  rw [evaluate, htokens]
  simp only [hoperator]

/-- Only the first three tokens matter, and the second has to be an operator. -/
theorem evaluate_eq_take (context : Context σ) (condition : Text) :
    evaluate context condition =
      match (operandsAndOperator condition).take 3 with
      | [left, operator, right] =>
        match Operator.ofText? operator.text with
        | some op =>
          resolve context left.text >>= fun l =>
            resolve context right.text >>= fun r => pure (op.holds l r)
        | none => pure false
      | _ => pure false := by
  unfold evaluate
  rcases operandsAndOperator condition with _ | ⟨left, _ | ⟨operator, _ | ⟨right, rest⟩⟩⟩
  · rfl
  · rfl
  · rfl
  · rfl

private theorem evaluate_of_short (h : (operandsAndOperator condition).length < 3)
    (context : Context σ) :
    evaluate context condition = pure false := by
  rw [evaluate_eq_take]
  rcases htokens : operandsAndOperator condition with _ | ⟨left, _ | ⟨operator, _ | ⟨right, rest⟩⟩⟩
  · rfl
  · rfl
  · rfl
  · rw [htokens] at h
    simp only [List.length_cons] at h
    omega

private theorem evaluate_of_unknown {operator : Token}
    (hsecond : (operandsAndOperator condition)[1]? = some operator)
    (hoperator : Operator.ofText? operator.text = none) (context : Context σ) :
    evaluate context condition = pure false := by
  rw [evaluate_eq_take]
  rcases htokens : operandsAndOperator condition with _ | ⟨left, _ | ⟨second, _ | ⟨right, rest⟩⟩⟩
  · rfl
  · rfl
  · rfl
  · rw [htokens] at hsecond
    obtain rfl : second = operator := Option.some.inj hsecond
    show (match Operator.ofText? second.text with
      | some op => _
      | none => pure false) = pure false
    rw [hoperator]

theorem makes_evaluate {result : Except Failure Bool}
    (h : Evaluates context condition state made result left) :
    Makes (evaluate context condition) (evaluate context.recorded condition) state made result
      left := by
  have hfalse : (∀ {τ : Type} (context : Context τ), evaluate context condition = pure false) →
      Makes (evaluate context condition) (evaluate context.recorded condition) state [] (.ok false)
        state := by
    intro hevaluate
    rw [hevaluate, hevaluate]
    exact makes_pure false state
  cases h with
  | short hlength => exact hfalse fun context => evaluate_of_short hlength context
  | unknown hsecond hoperator =>
    exact hfalse fun context => evaluate_of_unknown hsecond hoperator context
  | leftFails hcompares hleft =>
    rw [evaluate_of_compares hcompares, evaluate_of_compares hcompares]
    exact (makes_resolve hleft).bind_error
  | rightFails hcompares hleft hright =>
    rw [evaluate_of_compares hcompares, evaluate_of_compares hcompares]
    exact (makes_resolve hleft).bind (makes_resolve hright).bind_error
  | decided hcompares hleft hright =>
    rw [evaluate_of_compares hcompares, evaluate_of_compares hcompares]
    exact (makes_resolve hleft).bind ((makes_resolve hright).map rfl)

end

/-! ### What a result says of the calls made -/

/-- The calls are made one after the other, and each is answered. -/
inductive Answered (context : Context σ) : σ → List Call → σ → Prop
  | nil (state : σ) : Answered context state [] state
  | lookup {state between left : σ} {name : Text} {value? : Option Value} {calls : List Call}
    (hlookup : outcome (context.lookup name) state = (.ok value?, between))
    (hrest : Answered context between calls left) :
    Answered context state (.lookup name :: calls) left
  | draw {state between left : σ} {n : Number} {calls : List Call}
    (hdraw : context.draw.run state = (n, between)) (hrest : Answered context between calls left) :
    Answered context state (.draw :: calls) left

/-- Either there is a result and all calls are answered, or the last call is a lookup that fails
with the very failure, and the others are answered. -/
def Accounted {α : Type} (context : Context σ) (state : σ) (made : List Call) :
    Except Failure α → σ → Prop
  | .ok _, left => Answered context state made left
  | .error failure, left => ∃ before name between, made = before ++ [.lookup name] ∧
      Answered context state before between ∧
      outcome (context.lookup name) between = (.error failure, left)

section

variable {context : Context σ} {condition operand : Text} {state between left : σ}
  {made more : List Call}

theorem Answered.append (h : Answered context state made between)
    (h' : Answered context between more left) : Answered context state (made ++ more) left := by
  induction h with
  | nil state => exact h'
  | lookup hlookup _ ih => exact .lookup hlookup (ih h')
  | draw hdraw _ ih => exact .draw hdraw (ih h')

theorem Accounted.append {α : Type} {result : Except Failure α}
    (h : Answered context state made between) (h' : Accounted context between more result left) :
    Accounted context state (made ++ more) result left := by
  cases result with
  | ok a => exact h.append h'
  | error failure =>
    obtain ⟨before, name, last, rfl, hbefore, hlookup⟩ := h'
    exact ⟨made ++ before, name, last, (List.append_assoc _ _ _).symm, h.append hbefore, hlookup⟩

theorem accounted_resolve {result : Except Failure Value}
    (h : Resolves context operand state made result left) :
    Accounted context state made result left := by
  cases h with
  | quoted => exact .nil state
  | number => exact .nil state
  | boolean => exact .nil state
  | random _ _ hdraw => exact .draw hdraw (.nil left)
  | found _ _ hlookup => exact .lookup hlookup (.nil left)
  | failed _ _ hlookup => exact ⟨[], _, state, rfl, .nil state, hlookup⟩

theorem accounted_evaluate {result : Except Failure Bool}
    (h : Evaluates context condition state made result left) :
    Accounted context state made result left := by
  cases h with
  | short => exact .nil state
  | unknown => exact .nil state
  | leftFails _ hleft => exact accounted_resolve hleft
  | rightFails _ hleft hright =>
    exact Accounted.append (accounted_resolve hleft) (accounted_resolve hright)
  | decided _ hleft hright =>
    exact Answered.append (accounted_resolve hleft) (accounted_resolve hright)

end

/-- **A condition asks for its operands and for nothing else.**  From every state, evaluation
makes the calls, gives the result and leaves the state that the rules say, and no others: none
for a condition that compares nothing, which is false, and otherwise those of the left operand
and then those of the right one.  It fails exactly when a lookup it makes fails, which is then
its last call, and it fails as that lookup does.  What stands behind the right operand matters
to nothing. -/
theorem evaluate_asks_operands (context : Context σ) (condition : Text) (state : σ) :
    (∃ made result left, Evaluates context condition state made result left ∧
      Accounted context state made result left) ∧
    (∀ made result left,
      Evaluates context condition state made result left ↔
        outcome (evaluate context condition) state = (result, left) ∧
          ∀ calls, outcome (evaluate context.recorded condition) (calls, state) =
            (result, (calls ++ made, left))) ∧
    ∀ other, (operandsAndOperator other).take 3 = (operandsAndOperator condition).take 3 →
      evaluate context other = evaluate context condition := by
  obtain ⟨made, result, left, hevaluates⟩ := exists_evaluates context condition state
  refine ⟨⟨made, result, left, hevaluates, accounted_evaluate hevaluates⟩, ?_, ?_⟩
  · intro made' result' left'
    refine ⟨fun h => makes_evaluate h, ?_⟩
    rintro ⟨houtcome, hcalls⟩
    obtain ⟨houtcome', hcalls'⟩ := makes_evaluate hevaluates
    obtain ⟨rfl, rfl⟩ := Prod.mk.inj (houtcome.symm.trans houtcome')
    have hmade := (hcalls []).symm.trans (hcalls' [])
    obtain rfl : made' = made := by simpa using hmade
    exact hevaluates
  · intro other htokens
    rw [evaluate_eq_take, evaluate_eq_take, htokens]

/-- Nothing is drawn for the right operand when the left one cannot be looked up. -/
example :
    (outcome (evaluate (Context.recorded ⟨fun _ => throw (.store ['x']), fun n => (.zero, n + 1)⟩)
        "hp < random 1".toList) ([], 0)).2 = ([.lookup "hp".toList], 0) := by
  decide +kernel

end Condition

end LineScript
