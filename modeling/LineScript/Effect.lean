/-
Effects that may fail.

Scripts read and write through a host they know nothing about.  What a host does is
a change of the host's state `σ`; a call that fails says why and leaves the state
as the call left it, so whatever was written before a failure stays written.
-/
import LineScript.Text.Basic

namespace LineScript

/-- Why a host's call failed. -/
inductive Failure where
  /-- The variables could not be read or written. -/
  | store (reason : Text)
  /-- The placeholders of a line could not be replaced. -/
  | substitution (reason : Text)
deriving DecidableEq

/-- The text that reports a failure. -/
def Failure.message : Failure → Text
  | .store reason => "variable store: ".toList ++ reason
  | .substitution reason => "substitution failed: ".toList ++ reason

/-- A change of the state `σ` that gives a result or fails. -/
abbrev Effect (σ α : Type) := ExceptT Failure (StateM σ) α

end LineScript
