/-
What the command line needs from the system it runs on.

All reading goes through this record, so that the command line itself is a function
that can be run on a disk, on files held in memory, or inside a proof.
-/
import LineScript.Session.Draws
import LineScript.Text.Basic

namespace LineScript

namespace CommandLine

/-- Why a file cannot be read. -/
inductive ReadFault where
  | missing
  | directory
  /-- The path leads through a file that is no directory. -/
  | notDirectory
  /-- Its bytes are not the UTF-8 form of a text. -/
  | notText
  /-- The system gives another reason. -/
  | other (reason : Text)
deriving DecidableEq

/-- The text that reports why a file cannot be read. -/
def ReadFault.message : ReadFault → Text
  | .missing => "No such file or directory (os error 2)".toList
  | .directory => "Is a directory (os error 21)".toList
  | .notDirectory => "Not a directory (os error 20)".toList
  | .notText => "stream did not contain valid UTF-8".toList
  | .other reason => reason

/-- The text whose UTF-8 form is given. -/
def textOfBytes (bytes : ByteArray) : Except ReadFault Text :=
  match String.fromUTF8? bytes with
  | some text => .ok text.toList
  | none => .error .notText

/-- A system, whose actions are in the monad `m`. -/
structure System (m : Type → Type) where
  /-- Read a whole file. -/
  readFile (path : Text) : m (Except ReadFault Text)
  /-- Is there a file or directory at a path? -/
  isThere (path : Text) : m Bool
  /-- Read standard input to its end. -/
  readInput : m (Except ReadFault Text)
  /-- Where session files are looked for, in order. -/
  sessionPaths : List Text
  /-- The random numbers of this run. -/
  draws : Draws

end CommandLine

end LineScript
