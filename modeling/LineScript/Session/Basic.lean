/-
Sessions: a host in memory.

A session remembers variables and chat messages from one script to the next.  It
never fails, so its replies carry no failure of their own.
-/
import LineScript.Placeholder
import LineScript.Script
import LineScript.Session.Draws
import LineScript.Session.History

namespace LineScript

/-- What is remembered between scripts. -/
structure Session where
  /-- The stored variables. -/
  bindings : Variables
  /-- The chat messages. -/
  history : History
deriving DecidableEq

namespace Session

/-- Nothing remembered yet. -/
def empty : Session := ⟨.empty, .empty History.defaultCapacity⟩

/-- Store a variable. -/
def setVariable (session : Session) (name value : Text) : Session :=
  { session with bindings := session.bindings.set name value }

/-- Record a chat message. -/
def recordMessage (session : Session) (message : Text) : Session :=
  { session with history := session.history.record message }

/-- Replace the placeholders in a line. -/
def expand (session : Session) (line : Text) : Text × Session :=
  let (text, bindings) := Placeholder.expand session.history.last session.bindings line
  (text, { session with bindings })

/-- A session, with the random numbers it draws, as the host of a script. -/
def host : Host (Session × Draws) where
  lookup name := fun (session, draws) =>
    (.ok (session.bindings.get? name), (session, draws))
  store name value := fun (session, draws) =>
    (.ok (), (session.setVariable name value, draws))
  substitute line := fun (session, draws) =>
    let (text, session) := session.expand line
    (.ok text, (session, draws))
  lastMessage := fun (session, draws) => (session.history.last, (session, draws))
  draw := fun (session, draws) =>
    let (number, draws) := draws.next
    (number, (session, draws))

/-- Run a script in a session and give the reply. -/
def run (script : Text) : StateM (Session × Draws) Text :=
  Script.reply host script

/-- Set variables and record messages, each in order. -/
def withOverrides (session : Session) (assignments : List (Text × Text))
    (messages : List Text) : Session :=
  messages.foldl recordMessage
    (assignments.foldl (fun session (name, value) => session.setVariable name value) session)

end Session

end LineScript
