/-
What every call of a host has, a run has.

A run is put together from the calls of its host and from nothing else that reads or
changes a state.  So a property of effects that holds of effects which do nothing, and
that effects in sequence have when their parts have it, holds of a run as soon as it
holds of the host's calls.

The same goes for two hosts.  A relation between the effects of one and those of the other
that relates doing nothing to doing nothing, and sequences whose parts are related, relates
the runs on the two hosts as soon as it relates their calls.  That is shown once, up through
the definitions, for any such relation; a property of one host is the case in which the
second host is not looked at.

Three properties are used again and again.  One is that the effect never fails: nothing the
interpreter does on its own account is a failure.  Another is that the effect leaves a part of
the state alone.  The last is that it respects a relation of states, which says that two runs
from related states give the same and leave related states.
-/
import LineScript.Proofs.Outcome

namespace LineScript

namespace Effect

/-- Effects that do nothing have the property, and effects in sequence have it when both
parts do. -/
structure Sequential {σ : Type} (P : (α : Type) → Effect σ α → Prop) : Prop where
  pure : ∀ {α : Type} (a : α), P α (pure a)
  bind : ∀ {α β : Type} {effect : Effect σ α} {next : α → Effect σ β}, P α effect →
    (∀ a, P β (next a)) → P β (effect >>= next)

/-- Effects that do nothing are related, and effects in sequence are when both parts are. -/
structure Coupling {σ τ : Type} (R : (α : Type) → Effect σ α → Effect τ α → Prop) : Prop where
  pure : ∀ {α : Type} (a : α), R α (pure a) (pure a)
  bind : ∀ {α β : Type} {effect : Effect σ α} {effect' : Effect τ α} {next : α → Effect σ β}
    {next' : α → Effect τ β}, R α effect effect' → (∀ a, R β (next a) (next' a)) →
    R β (effect >>= next) (effect' >>= next')

end Effect

/-- Every call of the host has the property. -/
structure Host.Each {σ : Type} (host : Host σ) (P : (α : Type) → Effect σ α → Prop) : Prop where
  lookup : ∀ name, P _ (host.lookup name)
  store : ∀ name value, P _ (host.store name value)
  substitute : ∀ line, P _ (host.substitute line)
  lastMessage : P _ (liftM host.lastMessage)
  draw : P _ (liftM host.draw)

/-- Every call of one host is related to the same call of the other. -/
structure Host.Coupled {σ τ : Type} (host : Host σ) (host' : Host τ)
    (R : (α : Type) → Effect σ α → Effect τ α → Prop) : Prop where
  lookup : ∀ name, R _ (host.lookup name) (host'.lookup name)
  store : ∀ name value, R _ (host.store name value) (host'.store name value)
  substitute : ∀ line, R _ (host.substitute line) (host'.substitute line)
  lastMessage : R _ (liftM host.lastMessage) (liftM host'.lastMessage)
  draw : R _ (liftM host.draw) (liftM host'.draw)

open Effect

variable {σ τ : Type} {R : (α : Type) → Effect σ α → Effect τ α → Prop}
  {P : (α : Type) → Effect σ α → Prop}

theorem Effect.Sequential.coupling (hP : Sequential P) :
    Coupling fun α effect (_ : Effect σ α) => P α effect :=
  ⟨hP.pure, hP.bind⟩

theorem Host.Each.coupled {host : Host σ} (h : host.Each P) :
    host.Coupled host fun α effect (_ : Effect σ α) => P α effect :=
  ⟨h.lookup, h.store, h.substitute, h.lastMessage, h.draw⟩

/-! ### Conditions -/

namespace Condition

variable {context : Context σ} {context' : Context τ}

theorem coupled_resolve (hR : Coupling R)
    (hlookup : ∀ name, R _ (context.lookup name) (context'.lookup name))
    (hdraw : R _ (liftM context.draw) (liftM context'.draw)) (operand : Text) :
    R _ (resolve context operand) (resolve context' operand) := by
  unfold resolve
  split
  · exact hR.pure _
  · split
    · exact hR.bind hdraw fun _ => hR.pure _
    · exact hR.bind (hlookup _) fun _ => hR.pure _

theorem coupled_evaluate (hR : Coupling R)
    (hlookup : ∀ name, R _ (context.lookup name) (context'.lookup name))
    (hdraw : R _ (liftM context.draw) (liftM context'.draw)) (condition : Text) :
    R _ (evaluate context condition) (evaluate context' condition) := by
  unfold evaluate
  split
  · split
    · refine hR.bind (coupled_resolve hR hlookup hdraw _) fun l => ?_
      exact hR.bind (coupled_resolve hR hlookup hdraw _) fun r => hR.pure _
    · exact hR.pure _
  · exact hR.pure _

end Condition

/-! ### Lines and scripts

Each definition of the interpreter has one lemma, put together from those of the definitions
it uses.  No other property of effects needs a look at any of them again.
-/

namespace Script

variable {host : Host σ} {host' : Host τ}

theorem coupled_decideCondition (hR : Coupling R) (h : host.Coupled host' R) (condition : Text) :
    R _ (decideCondition host condition) (decideCondition host' condition) := by
  have hlookup : ∀ name, R _ (host.context.lookup name) (host'.context.lookup name) := by
    intro name
    exact hR.bind (h.lookup name) fun _ => hR.pure _
  unfold decideCondition
  split
  · exact hR.bind h.lastMessage fun _ => Condition.coupled_evaluate hR hlookup h.draw _
  · exact Condition.coupled_evaluate hR hlookup h.draw _

theorem coupled_enterBranch (hR : Coupling R) (h : host.Coupled host' R) (progress : Progress)
    (marker : Text) (condition? : Option Text) :
    R _ (enterBranch host progress marker condition?)
      (enterBranch host' progress marker condition?) := by
  unfold enterBranch enterBranchBy
  split
  · exact hR.pure _
  · split
    · exact hR.pure _
    · split
      · exact hR.pure _
      · exact hR.bind (coupled_decideCondition hR h _) fun _ => hR.pure _

theorem coupled_carryOut (hR : Coupling R) (h : host.Coupled host' R) (progress : Progress)
    (line : Text) : R _ (carryOut host progress line) (carryOut host' progress line) := by
  unfold carryOut carryOutBy
  split
  · exact hR.bind (coupled_decideCondition hR h _) fun _ => hR.pure _
  · exact coupled_enterBranch hR h _ _ _
  · exact coupled_enterBranch hR h _ _ _
  · exact hR.pure _
  · exact hR.pure _
  · split
    · exact hR.bind (h.store _ _) fun _ => hR.pure progress
    · exact hR.pure progress
  · split
    · exact hR.bind (h.store _ _) fun _ => hR.pure progress
    · exact hR.pure progress
  · exact hR.pure _

theorem coupled_passOver (hR : Coupling R) (h : host.Coupled host' R) (progress : Progress)
    (line : Text) : R _ (passOver host progress line) (passOver host' progress line) := by
  unfold passOver passOverBy
  split
  · exact hR.pure _
  · split
    · exact hR.bind (h.substitute _) fun _ => coupled_enterBranch hR h _ _ _
    · exact coupled_enterBranch hR h _ _ _
  · exact coupled_enterBranch hR h _ _ _
  · exact hR.pure _
  · exact hR.pure _

theorem coupled_step (hR : Coupling R) (h : host.Coupled host' R) (progress : Progress)
    (line : Text) : R _ (step host progress line) (step host' progress line) := by
  unfold step stepBy
  split
  · exact coupled_passOver hR h _ _
  · exact hR.bind (h.substitute _) fun _ => coupled_carryOut hR h _ _

/-- **Where the calls of two hosts are related, going on by any lines is.** -/
theorem coupled_steps (hR : Coupling R) (h : host.Coupled host' R) (progress : Progress)
    (lines : List Text) : R _ (steps host progress lines) (steps host' progress lines) := by
  induction lines generalizing progress with
  | nil => exact hR.pure _
  | cons line rest ih =>
    rw [steps_cons, steps_cons]
    exact hR.bind (coupled_step hR h progress line) fun next => ih next

theorem coupled_run (hR : Coupling R) (h : host.Coupled host' R) (script : Text) :
    R _ (run host script) (run host' script) :=
  hR.bind (coupled_steps hR h .start _) fun _ => hR.pure _

theorem each_step (hP : Sequential P) (h : host.Each P) (progress : Progress) (line : Text) :
    P _ (step host progress line) :=
  coupled_step hP.coupling h.coupled progress line

/-- **What every call of a host has, going on by any lines has.** -/
theorem each_steps (hP : Sequential P) (h : host.Each P) (progress : Progress)
    (lines : List Text) : P _ (steps host progress lines) :=
  coupled_steps hP.coupling h.coupled progress lines

end Script

/-! ### Never failing -/

namespace Effect

variable {α : Type}

/-- The effect fails from no state. -/
def Succeeds (effect : Effect σ α) : Prop :=
  ∀ state, ∃ a left, outcome effect state = (.ok a, left)

theorem sequential_succeeds : Sequential fun _ (effect : Effect σ _) => Succeeds effect where
  pure a := fun state => ⟨a, state, rfl⟩
  bind := by
    intro α β effect next h hnext state
    obtain ⟨a, left, hfirst⟩ := h state
    rw [outcome_bind_of_ok hfirst]
    exact hnext a left

/-! ### Leaving a part of the state alone -/

/-- The effect leaves a part of the state as it is. -/
def Keeps (part : σ → τ) (effect : Effect σ α) : Prop :=
  ∀ state, part (outcome effect state).2 = part state

theorem sequential_keeps (part : σ → τ) :
    Sequential fun _ (effect : Effect σ _) => Keeps part effect where
  pure _ := fun _ => rfl
  bind := by
    intro α β effect next h hnext state
    have hfirst := h state
    rw [outcome_bind]
    rcases houtcome : outcome effect state with ⟨failure | a, left⟩
    · rw [houtcome] at hfirst
      exact hfirst
    · rw [houtcome] at hfirst
      exact (hnext a left).trans hfirst

/-! ### Related states

The relation need not be equality, and that is the use of it: what no call can tell apart
may differ all through a run.
-/

/-- From related states the effect gives the same, or fails alike, and leaves related
states. -/
def Respects (R : σ → σ → Prop) (effect : Effect σ α) : Prop :=
  ∀ first second, R first second →
    (outcome effect first).1 = (outcome effect second).1 ∧
      R (outcome effect first).2 (outcome effect second).2

theorem sequential_respects (R : σ → σ → Prop) :
    Sequential fun _ (effect : Effect σ _) => Respects R effect where
  pure _ := fun _ _ hrelated => ⟨rfl, hrelated⟩
  bind := by
    intro α β effect next h hnext first second hrelated
    have hboth := h first second hrelated
    rw [outcome_bind, outcome_bind]
    rcases hfirst : outcome effect first with ⟨result, left⟩
    rcases hsecond : outcome effect second with ⟨other, left'⟩
    rw [hfirst, hsecond] at hboth
    obtain ⟨hsame, hleft⟩ := hboth
    obtain rfl : result = other := hsame
    rcases result with failure | a
    · exact ⟨rfl, hleft⟩
    · exact hnext a left left' hleft

end Effect

end LineScript
