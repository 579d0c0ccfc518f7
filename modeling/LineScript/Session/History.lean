/-
The chat messages a session remembers.

A history keeps the newest messages up to its capacity, which is at least one.
Repeated messages are kept: saying a thing twice is two messages.
-/
import LineScript.Text.Basic

namespace LineScript

/-- The newest messages, as many as there is room for. -/
structure History where
  /-- The messages, newest first. -/
  entries : List Text
  /-- The greatest number of messages kept. -/
  capacity : Nat
  /-- There is room for a message. -/
  capacity_pos : 0 < capacity
  /-- There is room for what is kept. -/
  length_le : entries.length ≤ capacity
deriving DecidableEq

namespace History

/-- No message, and room for `capacity` messages, or for one if that is none. -/
def empty (capacity : Nat) : History :=
  ⟨[], max capacity 1, by omega, Nat.zero_le _⟩

/-- The capacity of a history for which nothing else is said. -/
def defaultCapacity : Nat := 100

/-- The number of messages kept. -/
def size (history : History) : Nat :=
  history.entries.length

/-- Add a message as the newest; without room for one more, the oldest is dropped. -/
def record (history : History) (message : Text) : History :=
  ⟨(message :: history.entries).take history.capacity, history.capacity,
    history.capacity_pos, List.length_take_le ..⟩

/-- Change the capacity; messages there is no more room for are dropped, oldest
first. -/
def resize (history : History) (capacity : Nat) : History :=
  ⟨history.entries.take (max capacity 1), max capacity 1, by omega, List.length_take_le ..⟩

/-- The newest message, or the empty text if there is none. -/
def last (history : History) : Text :=
  history.entries.headD []

@[simp] theorem entries_empty (capacity : Nat) : (empty capacity).entries = [] := rfl

@[simp] theorem capacity_record (history : History) (message : Text) :
    (history.record message).capacity = history.capacity := rfl

@[simp] theorem last_record (history : History) (message : Text) :
    (history.record message).last = message := by
  obtain ⟨entries, capacity, hpos, hle⟩ := history
  cases capacity with
  | zero => exact absurd hpos (Nat.lt_irrefl 0)
  | succ room => rfl

/-- A message takes room until there is none left. -/
theorem size_record (history : History) (message : Text) :
    (history.record message).size = min (history.size + 1) history.capacity := by
  simp [size, record, Nat.min_comm]

/-- Resizing cuts the history to the new capacity. -/
theorem size_resize (history : History) (capacity : Nat) :
    (history.resize capacity).size = min history.size (max capacity 1) := by
  simp [size, resize, Nat.min_comm]

end History

end LineScript
