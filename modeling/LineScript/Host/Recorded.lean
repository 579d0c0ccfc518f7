/-
The calls a run makes.

Every host has a twin that does the same and keeps a list of the calls made of it.
A call is noted before it is made, so one that fails is the last on the list.  What
a script asks for, and in what order, is then part of the state a run leaves.
-/
import LineScript.Host.Basic

namespace LineScript

/-- A call of a host. -/
inductive Call where
  | lookup (name : Text)
  | store (name value : Text)
  | substitute (line : Text)
  | lastMessage
  | draw
deriving DecidableEq

namespace Host

/-- Note a call and then make it. -/
def noting {σ α : Type} (call : Call) (effect : StateM σ α) : StateM (List Call × σ) α :=
  fun (calls, state) =>
    let (result, state) := effect.run state
    (result, (calls ++ [call], state))

/-- The host that does the same and lists the calls, first call first. -/
def recorded {σ : Type} (host : Host σ) : Host (List Call × σ) where
  lookup name := noting (.lookup name) (host.lookup name).run
  store name value := noting (.store name value) (host.store name value).run
  substitute line := noting (.substitute line) (host.substitute line).run
  lastMessage := noting .lastMessage host.lastMessage
  draw := noting .draw host.draw

end Host

end LineScript
