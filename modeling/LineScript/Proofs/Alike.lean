/-
Sessions that look alike.

A run sees a session only through what it asks of it: the text of a variable, the last
message, the next number.  Two sessions with the same messages, the same draws and the
same text under every name are told apart by nothing, whatever the order in which their
variables were set, and a run leaves them alike again.
-/
import LineScript.Proofs.Calls
import LineScript.Session.Basic

namespace LineScript

open Effect

/-! ### Placeholders -/

/-- What pieces are replaced by depends on the variables only as on a lookup table. -/
theorem Placeholder.replaceAllIn_congr (last : Text) (parts : List Piece)
    {first second : Variables} (h : ∀ name, first.get? name = second.get? name) :
    (replaceAllIn .variables last first parts).1 = (replaceAllIn .variables last second parts).1 ∧
      ∀ name, (replaceAllIn .variables last first parts).2.get? name =
        (replaceAllIn .variables last second parts).2.get? name := by
  induction parts generalizing first second with
  | nil => exact ⟨rfl, h⟩
  | cons piece rest ih =>
    have htext : (replaceIn .variables last first piece).1 =
        (replaceIn .variables last second piece).1 := by
      cases piece with
      | read name =>
        show (first.get? name).getD [] = (second.get? name).getD []
        rw [h name]
      | _ => rfl
    have hbindings : ∀ name, (replaceIn .variables last first piece).2.get? name =
        (replaceIn .variables last second piece).2.get? name := by
      intro name
      cases piece with
      | write key value =>
        show (first.set key value).get? name = (second.set key value).get? name
        rw [Variables.get?_set, Variables.get?_set, h name]
      | _ => exact h name
    obtain ⟨hrest, hleft⟩ := ih hbindings
    simp only [replaceAllIn]
    exact ⟨by rw [htext, hrest], hleft⟩

namespace Session

/-! ### Sessions -/

/-- The sessions have the same messages and the same text under every name, and draw the
same numbers. -/
structure Alike (first second : Session × Draws) : Prop where
  history_eq : first.1.history = second.1.history
  get?_eq : ∀ name, first.1.bindings.get? name = second.1.bindings.get? name
  draws_eq : first.2 = second.2

/-- No call tells alike sessions apart. -/
theorem respects_host : host.Each fun _ effect => Respects Alike effect where
  lookup name := by
    intro first second h
    refine ⟨?_, h⟩
    show Except.ok (first.1.bindings.get? name) = Except.ok (second.1.bindings.get? name)
    rw [h.get?_eq name]
  store name value := by
    intro first second h
    refine ⟨rfl, h.history_eq, fun other => ?_, h.draws_eq⟩
    show (first.1.bindings.set name value).get? other = (second.1.bindings.set name value).get? other
    rw [Variables.get?_set, Variables.get?_set, h.get?_eq other]
  substitute line := by
    intro first second h
    have hreplaced := Placeholder.replaceAllIn_congr second.1.history.last
      (Placeholder.pieces line) h.get?_eq
    have hlast : first.1.history.last = second.1.history.last := by rw [h.history_eq]
    refine ⟨?_, h.history_eq, fun name => ?_, h.draws_eq⟩
    · show Except.ok (Placeholder.expand _ _ line).1 = Except.ok (Placeholder.expand _ _ line).1
      rw [hlast]
      exact congrArg Except.ok hreplaced.1
    · show (Placeholder.expand _ _ line).2.get? name = (Placeholder.expand _ _ line).2.get? name
      rw [hlast]
      exact hreplaced.2 name
  lastMessage := by
    intro first second h
    refine ⟨?_, h⟩
    show Except.ok first.1.history.last = Except.ok second.1.history.last
    rw [h.history_eq]
  draw := by
    intro first second h
    refine ⟨?_, h.history_eq, h.get?_eq, ?_⟩
    · show Except.ok first.2.next.1 = Except.ok second.2.next.1
      rw [h.draws_eq]
    · show first.2.next.2 = second.2.next.2
      rw [h.draws_eq]

/-- **Going on by any lines, alike sessions stay alike.** -/
theorem respects_steps (progress : Script.Progress) (lines : List Text) :
    Respects Alike (Script.steps host progress lines) :=
  Script.each_steps (sequential_respects Alike) respects_host progress lines

/-! ### Calls that never fail -/

theorem reliable_host : host.Each fun _ effect => Succeeds effect where
  lookup name := fun start => ⟨start.1.bindings.get? name, start, rfl⟩
  store name value := fun start => ⟨(), (start.1.setVariable name value, start.2), rfl⟩
  substitute line := fun start =>
    ⟨(start.1.expand line).1, ((start.1.expand line).2, start.2), rfl⟩
  lastMessage := fun start => ⟨start.1.history.last, start, rfl⟩
  draw := fun start => ⟨start.2.next.1, (start.1, start.2.next.2), rfl⟩

end Session

end LineScript
