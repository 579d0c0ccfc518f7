/-
The command line.

A run reads its arguments, then the session file, then the script, and stops at the
first of these that cannot be read.  Variables and messages given as arguments come
after those of the session file.  The reply goes to standard output.
-/
import LineScript.CommandLine.Arguments
import LineScript.CommandLine.System
import LineScript.Session.File

namespace LineScript

namespace CommandLine

/-- What a run leaves behind. -/
structure Outcome where
  code : Nat
  /-- What is written to standard output. -/
  output : Text
  /-- The lines written to standard error. -/
  errors : List Text
deriving DecidableEq

/-- How the arguments are to be given. -/
def usage : Text :=
  ("Usage: logic [-d] [-f[<session>]] [-s<name>=<value>]... [-m<message>]... " ++
    "[-c<script> | <file> | -]").toList

/-- The name by which the program reports. -/
def reportName : Text := "logic: ".toList

namespace Outcome

/-- The script ran. -/
def ofReply (reply : Text) : Outcome := ⟨0, reply ++ ['\n'], []⟩

/-- The arguments are refused. -/
def ofArgumentFault (fault : ArgumentFault) : Outcome :=
  ⟨1, [], [reportName ++ fault.message, usage]⟩

/-- Something cannot be read. -/
def ofReadFault (place : Text) (fault : ReadFault) : Outcome :=
  ⟨1, [], [reportName ++ place ++ ": ".toList ++ fault.message]⟩

end Outcome

variable {m : Type → Type} [Monad m]

/-- The first of some paths where there is something. -/
def firstThere? (system : System m) : List Text → m (Option Text)
  | [] => return none
  | path :: rest => do
    if ← system.isThere path then return some path else firstThere? system rest

/-- The session file to start from, if any. -/
def sessionPath? (system : System m) : SessionChoice → m (Option Text)
  | .skip => return none
  | .file path => return some path
  | .search => firstThere? system system.sessionPaths

/-- The session to start from. -/
def startSession (system : System m) (choice : SessionChoice) :
    m (Except Outcome Session) := do
  match ← sessionPath? system choice with
  | none => return .ok .empty
  | some path =>
    match ← system.readFile path with
    | .ok text => return .ok (SessionFile.load text).1
    | .error fault => return .error (.ofReadFault path fault)

/-- The text of the script. -/
def scriptText (system : System m) : ScriptSource → m (Except Outcome Text)
  | .inline text => return .ok text
  | .file path => return (← system.readFile path).mapError (.ofReadFault path)
  | .stdin => return (← system.readInput).mapError (.ofReadFault "stdin".toList)

/-- Run a script in a session, after setting variables and recording messages. -/
def replyIn (session : Session) (arguments : Arguments) (draws : Draws) (script : Text) : Text :=
  let session := session.withOverrides arguments.assignments arguments.messages
  ((Session.run script).run (session, draws)).1

/-- Run the program. -/
def run (system : System m) (arguments : List Text) : m Outcome := do
  match Arguments.read arguments with
  | .error fault => return .ofArgumentFault fault
  | .ok arguments =>
    match ← startSession system arguments.session with
    | .error outcome => return outcome
    | .ok session =>
      match ← scriptText system arguments.script with
      | .error outcome => return outcome
      | .ok script => return .ofReply (replyIn session arguments system.draws script)

end CommandLine

end LineScript
