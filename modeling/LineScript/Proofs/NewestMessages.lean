/-
A history holds the newest messages, and no others.

A history is changed in two ways: a message is recorded, or the capacity is changed.  What
one change does is said once for both: what was kept stands behind what the change records,
as much of it as there is room for, and the newest message is always among it.

A message that is dropped is gone, even when the capacity grows again.  So a message is kept
for as long as there has been room for it, and for all that is newer, after every change.
-/
import LineScript.Proofs.Calls
import LineScript.Proofs.FaultyLines

namespace LineScript

namespace History

/-! ### Changes -/

/-- A change of a history. -/
inductive Change where
  | record (message : Text)
  | resize (capacity : Nat)
deriving DecidableEq

/-- The history after a change. -/
def Change.apply (history : History) : Change → History
  | .record message => history.record message
  | .resize capacity => history.resize capacity

/-- The message that a change records. -/
def Change.message? : Change → Option Text
  | .record message => some message
  | .resize _ => none

/-- The capacity that a change asks for. -/
def Change.capacity? : Change → Option Nat
  | .record _ => none
  | .resize capacity => some capacity

/-- The history after changes, made in order. -/
def after (history : History) (changes : List Change) : History :=
  changes.foldl Change.apply history

/-- The messages that changes record, newest first. -/
def messages (changes : List Change) : List Text :=
  (changes.filterMap Change.message?).reverse

/-- The capacity asked for last, by a change or at the start. -/
def capacityAsked (capacity : Nat) (changes : List Change) : Nat :=
  (changes.filterMap Change.capacity?).getLastD capacity

theorem after_append (history : History) (earlier later : List Change) :
    history.after (earlier ++ later) = (history.after earlier).after later :=
  List.foldl_append

theorem after_concat (history : History) (changes : List Change) (change : Change) :
    history.after (changes ++ [change]) = change.apply (history.after changes) :=
  after_append history changes [change]

theorem messages_append (earlier later : List Change) :
    messages (earlier ++ later) = messages later ++ messages earlier := by
  rw [messages, List.filterMap_append, List.reverse_append, messages, messages]

theorem messages_concat (changes : List Change) (change : Change) :
    messages (changes ++ [change]) = change.message?.toList ++ messages changes := by
  rw [messages_append]
  cases change <;> rfl

theorem capacityAsked_concat (capacity : Nat) (changes : List Change) (change : Change) :
    capacityAsked capacity (changes ++ [change]) =
      change.capacity?.getD (capacityAsked capacity changes) := by
  cases change <;> simp [capacityAsked, Change.capacity?, List.filterMap_append]

/-! ### One change -/

/-- After a change there is kept, of what it records and what was kept before, as much as there
is room for. -/
theorem entries_apply (history : History) (change : Change) :
    (change.apply history).entries =
      (change.message?.toList ++ history.entries).take (change.apply history).capacity := by
  cases change with
  | record message => rfl
  | resize capacity => rfl

private theorem entries_prefix_apply (history : History) (change : Change) :
    (change.apply history).entries <+: change.message?.toList ++ history.entries := by
  rw [entries_apply]
  exact List.take_prefix _ _

/-- The newest message is kept, since there is always room for one. -/
theorem head?_entries_apply (history : History) (change : Change) :
    (change.apply history).entries.head? = (change.message?.toList ++ history.entries).head? := by
  have hroom : (change.apply history).capacity ≠ 0 :=
    Nat.ne_of_gt (change.apply history).capacity_pos
  rw [entries_apply, List.head?_take, if_neg hroom]

/-- Messages take room until there is none left. -/
theorem size_apply (history : History) (change : Change) :
    (change.apply history).size =
      min (change.message?.toList.length + history.size) (change.apply history).capacity := by
  rw [size, entries_apply, List.length_take, List.length_append, Nat.min_comm, size]

theorem capacity_apply (history : History) (change : Change) :
    (change.apply history).capacity =
      (change.capacity?.map (max · 1)).getD history.capacity := by
  cases change with
  | record message => rfl
  | resize capacity => rfl

/-! ### Any changes

By induction on the changes, the last of them taken off, what any changes leave is compared
with the list of all messages they record.
-/

/-- **What is kept after changes is the newest of what they record and what was kept
before.** -/
theorem entries_prefix_after (history : History) (changes : List Change) :
    (history.after changes).entries <+: messages changes ++ history.entries := by
  induction changes using List.reverseRecOn with
  | nil => exact List.prefix_refl _
  | append_singleton changes change ih =>
    rw [after_concat, messages_concat, List.append_assoc]
    exact (entries_prefix_apply _ change).trans ((List.prefix_append_right_inj _).mpr ih)

theorem entries_after (history : History) (changes : List Change) :
    (history.after changes).entries =
      (messages changes ++ history.entries).take (history.after changes).size :=
  List.prefix_iff_eq_take.mp (entries_prefix_after history changes)

theorem size_after_le (history : History) (changes : List Change) :
    (history.after changes).size ≤ (messages changes).length + history.size := by
  have hlength := (entries_prefix_after history changes).length_le
  rw [List.length_append] at hlength
  exact hlength

theorem head?_entries_after (history : History) (changes : List Change) :
    (history.after changes).entries.head? = (messages changes ++ history.entries).head? := by
  induction changes using List.reverseRecOn with
  | nil => rfl
  | append_singleton changes change ih =>
    rw [after_concat, head?_entries_apply, messages_concat, List.append_assoc, List.head?_append,
      ih, ← List.head?_append]

theorem last_after (history : History) (changes : List Change) :
    (history.after changes).last = (messages changes ++ history.entries).headD [] := by
  rw [last, List.headD_eq_head?_getD, head?_entries_after, ← List.headD_eq_head?_getD]

/-- A message that was kept, with `newer` messages in front of it, is kept exactly if after
every change there has been room for it and what was in front of it. -/
theorem lt_size_after_iff {history : History} {newer : Nat} (hkept : newer < history.size)
    (changes : List Change) :
    (messages changes).length + newer < (history.after changes).size ↔
      ∀ made, made <+: changes →
        (messages made).length + newer < (history.after made).capacity := by
  constructor
  · rintro hlt made ⟨rest, rfl⟩
    have hmade : (history.after made).size ≤ (history.after made).capacity :=
      (history.after made).length_le
    have hrest := size_after_le (history.after made) rest
    rw [after_append, messages_append, List.length_append] at hlt
    omega
  · intro hroom
    induction changes using List.reverseRecOn with
    | nil =>
      rw [show (messages []).length + newer = newer from Nat.zero_add newer]
      exact hkept
    | append_singleton changes change ih =>
      have hbefore := ih fun made hmade => hroom made (hmade.trans (List.prefix_append _ _))
      have hafter := hroom (changes ++ [change]) (List.prefix_refl _)
      rw [after_concat, messages_concat, List.length_append] at hafter
      rw [after_concat, messages_concat, List.length_append, size_apply]
      omega

/-! ### From an empty history -/

/-- The history that changes make of an empty one. -/
def ofChanges (capacity : Nat) (changes : List Change) : History :=
  (empty capacity).after changes

theorem capacity_ofChanges (capacity : Nat) (changes : List Change) :
    (ofChanges capacity changes).capacity = max (capacityAsked capacity changes) 1 := by
  induction changes using List.reverseRecOn with
  | nil => rfl
  | append_singleton changes change ih =>
    rw [ofChanges, after_concat, capacity_apply, ← ofChanges, ih, capacityAsked_concat]
    cases change <;> rfl

theorem entries_ofChanges (capacity : Nat) (changes : List Change) :
    (ofChanges capacity changes).entries =
      (messages changes).take (ofChanges capacity changes).size := by
  have hentries := entries_after (empty capacity) changes
  rw [entries_empty, List.append_nil] at hentries
  exact hentries

theorem last_ofChanges (capacity : Nat) (changes : List Change) :
    (ofChanges capacity changes).last = (messages changes).headD [] := by
  have hlast := last_after (empty capacity) changes
  rw [entries_empty, List.append_nil] at hlast
  exact hlast

/-- **A history holds exactly the newest messages**, whatever capacity it starts with and
however messages are recorded and the capacity is changed.  There is room for one message
at least, and for as many as was asked for last; what is kept is the newest of all messages
ever recorded, newest first.  One more message takes room until there is none left, a new
capacity cuts off what there is no room for, and nothing that is cut off comes back.  The
last message is the one recorded last, and it is empty only if there is none or it is itself
empty. -/
theorem holds_newest_messages (capacity : Nat) (changes : List Change) :
    1 ≤ (ofChanges capacity changes).capacity ∧
    (ofChanges capacity changes).capacity = max (capacityAsked capacity changes) 1 ∧
    (ofChanges capacity changes).size ≤ (ofChanges capacity changes).capacity ∧
    (ofChanges capacity changes).entries =
      (messages changes).take (ofChanges capacity changes).size ∧
    (∀ message, (ofChanges capacity (changes ++ [.record message])).size =
      min ((ofChanges capacity changes).size + 1) (ofChanges capacity changes).capacity) ∧
    (∀ asked, (ofChanges capacity (changes ++ [.resize asked])).size =
      min (ofChanges capacity changes).size (max asked 1)) ∧
    (∀ later, (ofChanges capacity (changes ++ later)).entries =
      (messages later ++ (ofChanges capacity changes).entries).take
        (ofChanges capacity (changes ++ later)).size) ∧
    (ofChanges capacity changes).last = (messages changes).headD [] ∧
    ((ofChanges capacity changes).last = [] ↔
      messages changes = [] ∨ (messages changes).head? = some []) := by
  have hcapacity := (ofChanges capacity changes).capacity_pos
  have hsize : (ofChanges capacity changes).size ≤ (ofChanges capacity changes).capacity :=
    (ofChanges capacity changes).length_le
  refine ⟨hcapacity, capacity_ofChanges capacity changes, hsize,
    entries_ofChanges capacity changes, fun message => ?_, fun asked => ?_, fun later => ?_,
    last_ofChanges capacity changes, ?_⟩
  · rw [ofChanges, after_concat]
    exact size_record _ message
  · rw [ofChanges, after_concat]
    exact size_resize _ asked
  · rw [ofChanges, after_append]
    exact entries_after _ later
  · rw [last_ofChanges]
    cases messages changes <;> simp

/-- A message is dropped for good when there is no room for it, though there is room again. -/
example :
    (ofChanges 0 [.resize 3, .record ['a'], .record ['b'], .resize 1, .resize 3,
      .record ['b']]).entries = [['b'], ['b']] := by
  decide

/-- **A message is kept exactly if after every change since there has been room for it** and
for the messages recorded behind it. -/
theorem kept_iff_room (capacity : Nat) (earlier later : List Change) (message : Text) :
    (ofChanges capacity (earlier ++ .record message :: later)).entries[(messages later).length]? =
        some message ↔
      ∀ made, made <+: later → (messages made).length <
        max (capacityAsked capacity (earlier ++ .record message :: made)) 1 := by
  -- Right after it is recorded the message is the newest; from there on it is counted what is
  -- recorded in front of it.
  have hafter : ∀ made, ofChanges capacity (earlier ++ .record message :: made) =
      (ofChanges capacity (earlier ++ [.record message])).after made := by
    intro made
    rw [List.append_cons, ofChanges, after_append]
    rfl
  have hnewest : (ofChanges capacity (earlier ++ [.record message])).entries.head? =
      some message := by
    rw [ofChanges, after_concat, head?_entries_apply]
    rfl
  obtain ⟨older, holder⟩ := List.head?_eq_some_iff.mp hnewest
  have hkept : 0 < (ofChanges capacity (earlier ++ [.record message])).size := by
    rw [size, holder]
    exact Nat.succ_pos _
  have hplace : (messages later ++ message :: older)[(messages later).length]? = some message := by
    simp
  have hroom := lt_size_after_iff hkept later
  simp only [← hafter, Nat.add_zero, capacity_ofChanges] at hroom
  rw [← hroom, hafter, entries_after, holder, List.getElem?_take, hplace]
  simp

private theorem messages_map_record (recorded : List Text) :
    messages (recorded.map .record) = recorded.reverse := by
  have hmessage : Change.message? ∘ Change.record = some := rfl
  rw [messages, List.filterMap_map, hmessage, List.filterMap_some]

end History

/-! ### The history of a session

The program changes the history of a session in no other way.  The lines of a session file
and the messages given beside it are such changes, and scripts make none.
-/

open History (Change)

namespace Session

open Effect

/-- Nothing that a script asks of a session changes the history. -/
theorem keeps_history :
    host.Each fun _ effect => Keeps (fun start => start.1.history) effect where
  lookup _ := fun _ => rfl
  store _ _ := fun _ => rfl
  substitute _ := fun _ => rfl
  lastMessage := fun _ => rfl
  draw := fun _ => rfl

theorem history_run (script : Text) (session : Session) (draws : Draws) :
    ((Session.run script).run (session, draws)).2.1.history = session.history := by
  show ((Script.reply host script).run (session, draws)).2.1.history = session.history
  rw [Script.reply_eq]
  exact Script.each_steps (sequential_keeps _) keeps_history .start _ (session, draws)

private theorem history_foldl_setVariable (assignments : List (Text × Text)) (session : Session) :
    (assignments.foldl (fun session (name, value) => session.setVariable name value)
      session).history = session.history := by
  induction assignments generalizing session with
  | nil => rfl
  | cons assignment rest ih => exact ih (session.setVariable assignment.1 assignment.2)

private theorem history_foldl_recordMessage (messages : List Text) (session : Session) :
    (messages.foldl recordMessage session).history =
      session.history.after (messages.map .record) := by
  induction messages generalizing session with
  | nil => rfl
  | cons message rest ih => exact ih (session.recordMessage message)

theorem history_withOverrides (session : Session) (assignments : List (Text × Text))
    (messages : List Text) :
    (session.withOverrides assignments messages).history =
      session.history.after (messages.map .record) := by
  rw [withOverrides, history_foldl_recordMessage, history_foldl_setVariable]

end Session

namespace SessionFile

/-- The change that an entry makes to the history. -/
def Entry.historyChange? : Entry → Option Change
  | .variable _ _ => none
  | .message text => some (.record text)
  | .capacity size => some (.resize size)

/-- The changes that a session file makes to the history. -/
def historyChanges (text : Text) : List Change :=
  (text.lines.filterMap changeOf?).filterMap Entry.historyChange?

theorem history_foldl_apply (entries : List Entry) (session : Session) :
    (entries.foldl Entry.apply session).history =
      session.history.after (entries.filterMap Entry.historyChange?) := by
  induction entries generalizing session with
  | nil => rfl
  | cons entry rest ih =>
    rw [List.foldl_cons, ih]
    cases entry <;> rfl

theorem history_load (text : Text) :
    (load text).1.history = .ofChanges History.defaultCapacity (historyChanges text) := by
  rw [load, loadLines_eq, history_foldl_apply]
  rfl

/-- **The messages a session remembers are the newest of those of its file and those given
beside it**, however the file sets the capacity and whatever scripts are run.  The last
message that a script reads is the last one given beside the file, or else the last one of
the file. -/
theorem history_started (file : Text) (assignments : List (Text × Text)) (messages : List Text)
    (script : Text) (draws : Draws) :
    ((Session.run script).run
        ((load file).1.withOverrides assignments messages, draws)).2.1.history =
      .ofChanges History.defaultCapacity (historyChanges file ++ messages.map .record) ∧
    ((load file).1.withOverrides assignments messages).history.last =
      (messages.reverse ++ History.messages (historyChanges file)).headD [] := by
  have hstarted : ((load file).1.withOverrides assignments messages).history =
      .ofChanges History.defaultCapacity (historyChanges file ++ messages.map .record) := by
    rw [Session.history_withOverrides, history_load, History.ofChanges, ← History.after_append]
    rfl
  refine ⟨(Session.history_run script _ draws).trans hstarted, ?_⟩
  rw [hstarted, History.last_ofChanges, History.messages_append, History.messages_map_record]

end SessionFile

end LineScript
