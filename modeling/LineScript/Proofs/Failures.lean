/-
Failures come from the host and end the run.

To say at which call a run stops, the calls are listed with the states in which they are
made.  An outage decides, for each call that can fail, whether it fails now and why; it may
look at all the calls made so far and at the state.  The host with an outage is then the
same host with some of its calls made to fail, and without an outage it only lists its
calls.

What is shown of calls, and with that of runs, is twofold.  Listing changes nothing, and an
effect fails exactly when its last call fails, with the failure of that call.  And an
outage cuts the list of calls at the first one it strikes: up to there both runs are the
same, and behind it there is nothing.  Both are relations between the effects of two hosts
that sequencing keeps, because what follows a call goes on from the list the call leaves.
-/
import LineScript.Proofs.Alike

namespace LineScript

open Effect

variable {σ α : Type}

/-! ### Lists of calls

A call is listed when it is made and before it is answered, with the state in which it is
made.  So a call that fails is in the list too, as its last entry.
-/

/-- Calls with the states in which they are made, first call first. -/
abbrev Trace (σ : Type) := List (Call × σ)

/-- Can the call fail at all? -/
def Call.fallible : Call → Bool
  | .lookup _ => true
  | .store _ _ => true
  | .substitute _ => true
  | .lastMessage => false
  | .draw => false

/-- Which calls are made to fail and why, by the calls before and the state. -/
abbrev Outage (σ : Type) := Trace σ → Call → σ → Option Failure

namespace Outage

/-- No call is made to fail. -/
def never : Outage σ := fun _ _ _ => none

/-- The failure with which the call is struck, if it can fail and is made to. -/
def strikes (outage : Outage σ) (trace : Trace σ) (call : Call) (state : σ) : Option Failure :=
  if call.fallible then outage trace call state else none

/-- None of the calls is struck when they follow a trace. -/
def Spares (outage : Outage σ) : Trace σ → Trace σ → Prop
  | _, [] => True
  | trace, (call, state) :: calls =>
    outage.strikes trace call state = none ∧ outage.Spares (trace ++ [(call, state)]) calls

/-- The first of the calls that is struck when they follow a trace: the failure, and the
trace and the state with which it ends. -/
def first? (outage : Outage σ) : Trace σ → Trace σ → Option (Failure × Trace σ × σ)
  | _, [] => none
  | trace, (call, state) :: calls =>
    match outage.strikes trace call state with
    | some failure => some (failure, trace ++ [(call, state)], state)
    | none => outage.first? (trace ++ [(call, state)]) calls

private theorem first?_append (outage : Outage σ) (trace first second : Trace σ) :
    outage.first? trace (first ++ second) =
      (outage.first? trace first).or (outage.first? (trace ++ first) second) := by
  induction first generalizing trace with
  | nil => simp [first?]
  | cons entry rest ih =>
    obtain ⟨call, state⟩ := entry
    rw [List.cons_append, first?, first?]
    cases outage.strikes trace call state with
    | some failure => rfl
    | none =>
      simp only
      rw [ih, List.append_assoc, List.singleton_append]

end Outage

namespace Host

/-- Make a call unless the outage strikes it, and list it in either case. -/
def attempt (outage : Outage σ) (call : Call) (effect : Effect σ α) : Effect (Trace σ × σ) α :=
  fun (trace, state) =>
    match outage.strikes trace call state with
    | some failure => (.error failure, (trace ++ [(call, state)], state))
    | none => ((outcome effect state).1, (trace ++ [(call, state)], (outcome effect state).2))

/-- Make a call that cannot fail, and list it. -/
def list (call : Call) (effect : StateM σ α) : StateM (Trace σ × σ) α :=
  fun (trace, state) =>
    ((effect.run state).1, (trace ++ [(call, state)], (effect.run state).2))

/-- The host that lists its calls and whose calls fail when the outage strikes them. -/
def interrupted (host : Host σ) (outage : Outage σ) : Host (Trace σ × σ) where
  lookup name := attempt outage (.lookup name) (host.lookup name)
  store name value := attempt outage (.store name value) (host.store name value)
  substitute line := attempt outage (.substitute line) (host.substitute line)
  lastMessage := list .lastMessage host.lastMessage
  draw := list .draw host.draw

/-- The host that only lists its calls. -/
def traced (host : Host σ) : Host (Trace σ × σ) :=
  host.interrupted .never

/-- The failure in an outcome, with the state left. -/
def failed : Except Failure α × σ → Option (Failure × σ)
  | (.error failure, left) => some (failure, left)
  | (.ok _, _) => none

/-- How a call fails in a state on its own account, and the state it leaves. -/
def failure? (host : Host σ) (state : σ) : Call → Option (Failure × σ)
  | .lookup name => failed (outcome (host.lookup name) state)
  | .store name value => failed (outcome (host.store name value) state)
  | .substitute line => failed (outcome (host.substitute line) state)
  | .lastMessage => none
  | .draw => none

/-- No call of the list fails in the state in which it is made. -/
def Answers (host : Host σ) (calls : Trace σ) : Prop :=
  ∀ entry ∈ calls, host.failure? entry.2 entry.1 = none

/-! ### An effect fails with its last call

The list and the result are related together.  An effect goes on only from a result, and where
there is a result all calls so far were answered; so of all the calls made only the last can
have failed.
-/

/-- A result and the state left, as the calls made account for them: either none of them
fails, or the last one fails with the very failure and leaves the state. -/
def Accounts (host : Host σ) (calls : Trace σ) : Except Failure α → σ → Prop
  | .ok _, _ => host.Answers calls
  | .error failure, left => ∃ before call state, calls = before ++ [(call, state)] ∧
      host.Answers before ∧ host.failure? state call = some (failure, left)

/-- The second effect does what the first does and lists the calls, which account for the
result. -/
def Lists (host : Host σ) (α : Type) (effect : Effect σ α) (listing : Effect (Trace σ × σ) α) :
    Prop :=
  ∀ trace state, ∃ calls,
    outcome listing (trace, state) =
      ((outcome effect state).1, (trace ++ calls, (outcome effect state).2)) ∧
    host.Accounts calls (outcome effect state).1 (outcome effect state).2

theorem coupling_lists (host : Host σ) : Coupling host.Lists where
  pure a := by
    intro trace state
    exact ⟨[], by simp, by simp [Accounts, Answers]⟩
  bind := by
    intro α β effect listing next next' h hnext trace state
    obtain ⟨calls, hlisting, haccounts⟩ := h trace state
    rw [outcome_bind, outcome_bind, hlisting]
    rcases houtcome : outcome effect state with ⟨failure | a, left⟩
    · -- Nothing follows a failure, so its call stays the last.
      rw [houtcome] at haccounts
      exact ⟨calls, rfl, haccounts⟩
    · rw [houtcome] at haccounts
      obtain ⟨more, hmore, haccounts'⟩ := hnext a (trace ++ calls) left
      refine ⟨calls ++ more, ?_, ?_⟩
      · show outcome (next' a) (trace ++ calls, left) = _
        rw [hmore, List.append_assoc]
      · have hcalls : host.Answers calls := haccounts
        show host.Accounts (calls ++ more) (outcome (next a) left).1 (outcome (next a) left).2
        rcases hlast : outcome (next a) left with ⟨failure | b, final⟩
        · rw [hlast] at haccounts'
          obtain ⟨before, call, met, rfl, hbefore, hfails⟩ := haccounts'
          refine ⟨calls ++ before, call, met, by rw [List.append_assoc], ?_, hfails⟩
          exact List.forall_mem_append.mpr ⟨hcalls, hbefore⟩
        · rw [hlast] at haccounts'
          exact List.forall_mem_append.mpr ⟨hcalls, haccounts'⟩

private theorem lists_attempt (host : Host σ) (call : Call) (effect : Effect σ α)
    (hfailure : ∀ state, host.failure? state call = failed (outcome effect state)) :
    host.Lists α effect (attempt .never call effect) := by
  intro trace state
  have hnever : Outage.never.strikes trace call state = none := by
    simp [Outage.strikes, Outage.never]
  refine ⟨[(call, state)], ?_, ?_⟩
  · show attempt .never call effect (trace, state) = _
    rw [attempt, hnever]
  · have hfails := hfailure state
    rcases houtcome : outcome effect state with ⟨failure | a, left⟩
    · rw [houtcome] at hfails
      exact ⟨[], call, state, rfl, by simp [Answers], hfails⟩
    · rw [houtcome] at hfails
      exact List.forall_mem_singleton.mpr hfails

private theorem lists_list (host : Host σ) (call : Call) (effect : StateM σ α)
    (hfailure : ∀ state, host.failure? state call = none) :
    host.Lists α (liftM effect) (liftM (list call effect)) := by
  intro trace state
  refine ⟨[(call, state)], rfl, ?_⟩
  exact List.forall_mem_singleton.mpr (hfailure state)

theorem coupled_traced (host : Host σ) : host.Coupled host.traced host.Lists where
  lookup name := lists_attempt host (.lookup name) (host.lookup name) fun _ => rfl
  store name value := lists_attempt host (.store name value) (host.store name value) fun _ => rfl
  substitute line := lists_attempt host (.substitute line) (host.substitute line) fun _ => rfl
  lastMessage := lists_list host _ _ fun _ => rfl
  draw := lists_list host _ _ fun _ => rfl

end Host

/-! ### An outage cuts the calls at the first it strikes -/

namespace Outage

/-- The second effect does what the first does up to the first call that is struck, and ends
there. -/
def Cuts (outage : Outage σ) (α : Type) (listing struck : Effect (Trace σ × σ) α) : Prop :=
  ∀ trace state, ∃ result calls left,
    outcome listing (trace, state) = (result, (trace ++ calls, left)) ∧
    outcome struck (trace, state) =
      match outage.first? trace calls with
      | some (failure, ended) => (.error failure, ended)
      | none => (result, (trace ++ calls, left))

theorem coupling_cuts (outage : Outage σ) : Coupling outage.Cuts where
  pure a := by
    intro trace state
    exact ⟨.ok a, [], state, by simp, by simp [first?]⟩
  bind := by
    intro α β listing struck next next' h hnext trace state
    obtain ⟨result, calls, left, hlisting, hstruck⟩ := h trace state
    rw [outcome_bind, outcome_bind, hlisting, hstruck]
    cases result with
    | error failure =>
      refine ⟨.error failure, calls, left, rfl, ?_⟩
      cases outage.first? trace calls <;> rfl
    | ok a =>
      obtain ⟨result', more, final, hmore, hstruck'⟩ := hnext a (trace ++ calls) left
      refine ⟨result', calls ++ more, final, ?_, ?_⟩
      · show outcome (next a) (trace ++ calls, left) = _
        rw [hmore, List.append_assoc]
      · rw [first?_append]
        cases outage.first? trace calls with
        | some stopped => rfl
        | none =>
          rw [Option.none_or, ← List.append_assoc]
          exact hstruck'

private theorem cuts_attempt (outage : Outage σ) (call : Call) (effect : Effect σ α) :
    outage.Cuts α (Host.attempt .never call effect) (Host.attempt outage call effect) := by
  intro trace state
  have hnever : Outage.never.strikes trace call state = none := by simp [strikes, never]
  refine ⟨(outcome effect state).1, [(call, state)], (outcome effect state).2, ?_, ?_⟩
  · show Host.attempt .never call effect (trace, state) = _
    rw [Host.attempt, hnever]
  · show Host.attempt outage call effect (trace, state) = _
    rw [Host.attempt, first?]
    cases outage.strikes trace call state <;> rfl

private theorem cuts_list (outage : Outage σ) {call : Call} (hcall : call.fallible = false)
    (effect : StateM σ α) :
    outage.Cuts α (liftM (Host.list call effect)) (liftM (Host.list call effect)) := by
  intro trace state
  have hspared : outage.first? trace [(call, state)] = none := by
    simp [first?, strikes, hcall]
  refine ⟨.ok (effect.run state).1, [(call, state)], (effect.run state).2, rfl, ?_⟩
  rw [hspared]
  rfl

theorem coupled_interrupted (outage : Outage σ) (host : Host σ) :
    host.traced.Coupled (host.interrupted outage) outage.Cuts where
  lookup name := outage.cuts_attempt (.lookup name) (host.lookup name)
  store name value := outage.cuts_attempt (.store name value) (host.store name value)
  substitute line := outage.cuts_attempt (.substitute line) (host.substitute line)
  lastMessage := outage.cuts_list rfl _
  draw := outage.cuts_list rfl _

/-- Either no call is struck, or one is struck and none before it. -/
private theorem spares_or_first (outage : Outage σ) (trace calls : Trace σ) :
    (outage.Spares trace calls ∧ outage.first? trace calls = none) ∨
      ∃ before call state after failure, calls = before ++ (call, state) :: after ∧
        outage.Spares trace before ∧ outage.strikes (trace ++ before) call state = some failure ∧
        outage.first? trace calls =
          some (failure, trace ++ before ++ [(call, state)], state) := by
  induction calls generalizing trace with
  | nil => exact Or.inl ⟨trivial, rfl⟩
  | cons entry rest ih =>
    obtain ⟨call, state⟩ := entry
    cases hstrikes : outage.strikes trace call state with
    | some failure =>
      refine Or.inr ⟨[], call, state, rest, failure, rfl, trivial, ?_, ?_⟩
      · rw [List.append_nil]
        exact hstrikes
      · rw [first?, hstrikes, List.append_nil]
    | none =>
      have hskip : outage.first? trace ((call, state) :: rest) =
          outage.first? (trace ++ [(call, state)]) rest := by
        rw [first?, hstrikes]
      rcases ih (trace ++ [(call, state)]) with ⟨hspares, hnone⟩ | hfirst
      · exact Or.inl ⟨⟨hstrikes, hspares⟩, hskip.trans hnone⟩
      · obtain ⟨before, struck, met, after, failure, rfl, hspares, hstruck, hfound⟩ := hfirst
        refine Or.inr ⟨(call, state) :: before, struck, met, after, failure, rfl,
          ⟨hstrikes, hspares⟩, ?_, ?_⟩
        · rw [← hstruck, List.append_assoc]
          rfl
        · rw [hskip, hfound, List.append_assoc trace [(call, state)] before]
          rfl

end Outage

/-! ### Runs -/

namespace Script

/-- **A run fails at the first call that fails, and only there.**  Of every run, take the
calls it makes, each with the state it is made in.  Either none of them fails, and the run
gives a text; or the last one fails and no other does, and the run fails as this call does,
leaves the host as this call leaves it, and has nothing but the failure for a reply.

Now let an outage strike some of the calls that can fail.  Either none of the calls made is
struck, and the run is the same.  Or it makes the same calls up to the first that is struck
and no other, fails as it is struck, leaves the host in the state in which that call was
made, and has nothing but the failure for a reply.

A session never fails, so the reply of its runs is the text they give. -/
theorem run_stops_at_first_failure (host : Host σ) (script : Text) (state : σ) :
    (∃ result calls left,
      outcome (run host script) state = (result, left) ∧
      outcome (run host.traced script) ([], state) = (result, (calls, left)) ∧
      ((∃ text, result = .ok text ∧ host.Answers calls ∧
          (reply host script).run state = (text, left)) ∨
        ∃ failure before call met, result = .error failure ∧ calls = before ++ [(call, met)] ∧
          host.Answers before ∧ host.failure? met call = some (failure, left) ∧
          (reply host script).run state = (failureMarker failure, left)) ∧
      ∀ outage : Outage σ,
        (outage.Spares [] calls ∧
          outcome (run (host.interrupted outage) script) ([], state) = (result, (calls, left))) ∨
        ∃ before call met after failure, calls = before ++ (call, met) :: after ∧
          outage.Spares [] before ∧ outage.strikes before call met = some failure ∧
          outcome (run (host.interrupted outage) script) ([], state) =
            (.error failure, (before ++ [(call, met)], met)) ∧
          (reply (host.interrupted outage) script).run ([], state) =
            (failureMarker failure, (before ++ [(call, met)], met))) ∧
    ∀ start, ∃ text left, outcome (run Session.host script) start = (.ok text, left) ∧
      (Session.run script).run start = (text, left) := by
  constructor
  · obtain ⟨calls, hlisted, haccounts⟩ :=
      coupled_run host.coupling_lists host.coupled_traced script [] state
    rcases hrun : outcome (run host script) state with ⟨result, left⟩
    rw [hrun, List.nil_append] at hlisted
    rw [hrun] at haccounts
    refine ⟨result, calls, left, rfl, hlisted, ?_, ?_⟩
    · have hreply := reply_of_outcome host hrun
      cases result with
      | ok text => exact Or.inl ⟨text, rfl, haccounts, hreply⟩
      | error failure =>
        obtain ⟨before, call, met, hcalls, hbefore, hfails⟩ := haccounts
        exact Or.inr ⟨failure, before, call, met, rfl, hcalls, hbefore, hfails, hreply⟩
    · intro outage
      obtain ⟨result', calls', left', hlisted', hstruck⟩ :=
        coupled_run outage.coupling_cuts (outage.coupled_interrupted host) script [] state
      rw [List.nil_append] at hlisted' hstruck
      obtain ⟨rfl, hpair⟩ := Prod.mk.inj (hlisted.symm.trans hlisted')
      obtain ⟨rfl, rfl⟩ := Prod.mk.inj hpair
      rcases outage.spares_or_first [] calls with ⟨hspares, hnone⟩ | hfirst
      · rw [hnone] at hstruck
        exact Or.inl ⟨hspares, hstruck⟩
      · obtain ⟨before, call, met, after, failure, hcalls, hspares, hstrikes, hfound⟩ := hfirst
        rw [hfound] at hstruck
        exact Or.inr ⟨before, call, met, after, failure, hcalls, hspares, hstrikes, hstruck,
          reply_of_outcome _ hstruck⟩
  · intro start
    have hsucceeds : Succeeds (run Session.host script) :=
      coupled_run sequential_succeeds.coupling Session.reliable_host.coupled script
    obtain ⟨text, left, hrun⟩ := hsucceeds start
    exact ⟨text, left, hrun, reply_of_outcome _ hrun⟩

end Script

end LineScript
