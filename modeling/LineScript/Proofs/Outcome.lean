/-
Outcomes of effects.

An effect is a function of the host's state.  Its outcome from a state is what it
gives, or why it fails, together with the state it leaves, and two effects are the
same exactly when their outcomes are.  Everything shown about a run rests on how
outcomes compose: what follows a call is decided by the call's outcome alone, and
nothing follows a call that failed.
-/
import LineScript.Host.Recorded
import LineScript.Script

namespace LineScript

namespace Effect

variable {σ α β : Type}

/-- What an effect gives from a state, or why it fails, and the state it leaves. -/
def outcome (effect : Effect σ α) (state : σ) : Except Failure α × σ :=
  effect.run.run state

@[simp] theorem outcome_pure (a : α) (state : σ) :
    outcome (pure a : Effect σ α) state = (.ok a, state) := rfl

/-- What follows an effect goes on from its outcome; nothing follows a failure. -/
theorem outcome_bind (effect : Effect σ α) (next : α → Effect σ β) (state : σ) :
    outcome (effect >>= next) state =
      match outcome effect state with
      | (.ok a, left) => outcome (next a) left
      | (.error failure, left) => (.error failure, left) := by
  simp only [outcome, ExceptT.run_bind, StateT.run_bind]
  rcases h : StateT.run (ExceptT.run effect) state with ⟨_ | a, left⟩ <;> rfl

theorem outcome_bind_of_ok {effect : Effect σ α} {state left : σ} {a : α}
    (h : outcome effect state = (.ok a, left)) (next : α → Effect σ β) :
    outcome (effect >>= next) state = outcome (next a) left := by
  rw [outcome_bind, h]

theorem outcome_bind_eq_ok {effect : Effect σ α} {next : α → Effect σ β} {state left : σ} {b : β}
    (h : outcome (effect >>= next) state = (.ok b, left)) :
    ∃ a between, outcome effect state = (.ok a, between) ∧
      outcome (next a) between = (.ok b, left) := by
  rw [outcome_bind] at h
  rcases hfirst : outcome effect state with ⟨_ | a, between⟩
  · rw [hfirst] at h
    cases h
  · rw [hfirst] at h
    exact ⟨a, between, rfl, h⟩

theorem ext_outcome {first second : Effect σ α}
    (h : ∀ state, outcome first state = outcome second state) : first = second :=
  funext h

/-! ### What an effect can give

`Gives` says that an effect can give a result at all, which is what a promise about a host's
answers speaks of.  What follows the effect has to be compared for such results only.
-/

/-- The effect gives the result from some state. -/
def Gives (effect : Effect σ α) (a : α) : Prop :=
  ∃ state left, outcome effect state = (.ok a, left)

/-- What follows an effect matters only at the results it can give. -/
theorem bind_congr_of_gives {effect : Effect σ α} {f g : α → Effect σ β}
    (h : ∀ a, Gives effect a → f a = g a) : effect >>= f = effect >>= g := by
  refine ext_outcome fun state => ?_
  rw [outcome_bind, outcome_bind]
  rcases hfirst : outcome effect state with ⟨_ | a, left⟩
  · rfl
  · show outcome (f a) left = outcome (g a) left
    rw [h a ⟨state, left, hfirst⟩]

end Effect

/-! ### Recorded hosts -/

namespace Host

variable {σ : Type}

/-- A host answers the same when its calls are listed. -/
theorem gives_of_gives_recorded {host : Host σ} {line text : Text}
    (h : Effect.Gives (host.recorded.substitute line) text) :
    Effect.Gives (host.substitute line) text := by
  obtain ⟨⟨calls, state⟩, ⟨calls', left⟩, houtcome⟩ := h
  refine ⟨state, left, ?_⟩
  have hpair := Prod.mk.inj houtcome
  exact Prod.ext hpair.1 (Prod.mk.inj hpair.2).2

end Host

/-! ### Scripts and lists of lines

`steps` is cut where the list of lines is cut, so that a run is followed line by line or
block by block.
-/

namespace Script

variable {σ : Type} (host : Host σ)

theorem run_eq (script : Text) :
    run host script =
      steps host .start (directiveLines script) >>= fun progress => pure progress.reply.trim := rfl

/-- The reply of a script is what its run gives, or says why it failed. -/
theorem reply_of_outcome {script : Text} {state left : σ} {result : Except Failure Text}
    (h : Effect.outcome (run host script) state = (result, left)) :
    (reply host script).run state =
      (match result with
        | .ok text => text
        | .error failure => failureMarker failure, left) := by
  have hrun : (run host script).run.run state = (result, left) := h
  unfold reply
  rw [StateT.run_bind, hrun]
  cases result <;> rfl

/-- The reply of a run, by how going on by its lines ended. -/
def replyOf : Except Failure Progress → Text
  | .ok progress => progress.reply.trim
  | .error failure => failureMarker failure

theorem reply_eq (script : Text) (start : σ) :
    (reply host script).run start =
      (replyOf (Effect.outcome (steps host .start (directiveLines script)) start).1,
        (Effect.outcome (steps host .start (directiveLines script)) start).2) := by
  rcases hsteps : Effect.outcome (steps host .start (directiveLines script)) start with
    ⟨failure | progress, left⟩
  · have hrun : Effect.outcome (run host script) start = (.error failure, left) := by
      rw [run_eq, Effect.outcome_bind, hsteps]
    exact reply_of_outcome host hrun
  · have hrun : Effect.outcome (run host script) start = (.ok progress.reply.trim, left) := by
      rw [run_eq, Effect.outcome_bind_of_ok hsteps]
      rfl
    exact reply_of_outcome host hrun

@[simp] theorem steps_nil (progress : Progress) : steps host progress [] = pure progress := rfl

@[simp] theorem steps_cons (progress : Progress) (line : Text) (lines : List Text) :
    steps host progress (line :: lines) =
      step host progress line >>= fun next => steps host next lines := rfl

theorem steps_append (progress : Progress) (first second : List Text) :
    steps host progress (first ++ second) =
      steps host progress first >>= fun next => steps host next second :=
  List.foldlM_append

end Script

end LineScript
