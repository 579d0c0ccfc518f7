/-
Stored variables.

A variable is a name with a text.  A name occurs once; setting it again replaces
its text.
-/
import LineScript.Text.Basic

namespace LineScript

/-- Names with their texts, the one set last first. -/
structure Variables where
  /-- Each name with its text. -/
  entries : List (Text × Text)
  /-- No name occurs twice. -/
  nodup : (entries.map Prod.fst).Nodup
deriving DecidableEq

namespace Variables

/-- No variable. -/
def empty : Variables := ⟨[], List.nodup_nil⟩

/-- The number of variables. -/
def size (bindings : Variables) : Nat :=
  bindings.entries.length

/-- The text stored under a name. -/
def get? (bindings : Variables) (name : Text) : Option Text :=
  bindings.entries.lookup name

/-- Removing the entries of a name leaves the name out and the others once. -/
theorem nodup_cons_filter {entries : List (Text × Text)} (name value : Text)
    (h : (entries.map Prod.fst).Nodup) :
    (((name, value) :: entries.filter (·.1 ≠ name)).map Prod.fst).Nodup := by
  rw [List.map_cons, List.nodup_cons]
  constructor
  · simp
  · exact h.sublist ((List.filter_sublist).map _)

/-- Store a text under a name. -/
def set (bindings : Variables) (name value : Text) : Variables :=
  ⟨(name, value) :: bindings.entries.filter (·.1 ≠ name),
    nodup_cons_filter name value bindings.nodup⟩

private theorem lookup_filter_ne (entries : List (Text × Text)) {name other : Text}
    (h : other ≠ name) : (entries.filter (·.1 ≠ name)).lookup other = entries.lookup other := by
  induction entries with
  | nil => rfl
  | cons entry rest ih =>
    obtain ⟨key, value⟩ := entry
    by_cases hk : key = name
    · subst hk
      have hne : (other == key) = false := by simpa using h
      rw [List.filter_cons_of_neg (by simp), ih, List.lookup_cons, hne]
    · rw [List.filter_cons_of_pos (by simpa using hk), List.lookup_cons, List.lookup_cons, ih]

/-- A name that was just set has the text it was set to, all others keep theirs. -/
theorem get?_set (bindings : Variables) (name value other : Text) :
    (bindings.set name value).get? other =
      if other = name then some value else bindings.get? other := by
  show List.lookup other ((name, value) :: _) = _
  rw [List.lookup_cons]
  by_cases h : other = name
  · simp [h]
  · have hne : (other == name) = false := by simpa using h
    rw [hne, if_neg h]
    exact lookup_filter_ne bindings.entries h

@[simp] theorem get?_empty (name : Text) : empty.get? name = none := rfl

end Variables

end LineScript
