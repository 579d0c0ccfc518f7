/-
Hosts.

A script keeps nothing between runs.  Variables, the replacement of placeholders,
chat messages and random numbers are the host's, and a script only asks for them.
Three of the five calls may fail; a failure ends the run.
-/
import LineScript.Condition.Basic

namespace LineScript

/-- What a script can ask of the application it runs in, whose state is `σ`. -/
structure Host (σ : Type) where
  /-- The text stored under a name, if there is one. -/
  lookup (name : Text) : Effect σ (Option Text)
  /-- Store a text under a name. -/
  store (name value : Text) : Effect σ Unit
  /-- Replace the placeholders in a line that is about to be carried out. -/
  substitute (line : Text) : Effect σ Text := pure line
  /-- The most recent chat message, empty if there is none. -/
  lastMessage : StateM σ Text := pure []
  /-- A number drawn at random from those between 0 and 1. -/
  draw : StateM σ Number

/-- Conditions look variables up in the host, as the values of the stored texts. -/
def Host.context {σ : Type} (host : Host σ) : Condition.Context σ where
  lookup name := do
    let raw ← host.lookup name
    return raw.map Value.ofStored
  draw := host.draw

end LineScript
