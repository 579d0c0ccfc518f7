/-
Session files: the text a session is started from.

Each line sets a variable, records a chat message or changes the capacity of the
history.  Blank lines, lines that start with a semicolon and lines with any other
command are passed over.  A line whose arguments cannot be understood is reported
with its number and changes nothing.
-/
import LineScript.Session.Basic

namespace LineScript

namespace SessionFile

/-! ### Entries -/

/-- What one line does to a session. -/
inductive Entry where
  | variable (name value : Text)
  | message (text : Text)
  | capacity (size : Nat)
deriving DecidableEq

/-- Why a line cannot be understood. -/
inductive Fault where
  /-- A variable was to be set, and nothing is said about it. -/
  | missingArgument
  /-- A variable was to be set, and only its name is there. -/
  | missingValue (name : Text)
  | emptyName
  /-- The capacity is not a number, or too large for a 64-bit word. -/
  | invalidCapacity (argument : Text)
deriving DecidableEq

/-- The text that reports a fault. -/
def Fault.message : Fault → Text
  | .missingArgument => "set: requires an argument".toList
  | .missingValue name => "set: missing value for \x27".toList ++ name ++ ['\x27']
  | .emptyName => "set: variable name cannot be empty".toList
  | .invalidCapacity argument => "histsize: invalid number \x27".toList ++ argument ++ ['\x27']

/-- What an entry does to a session. -/
def Entry.apply (session : Session) : Entry → Session
  | .variable name value => session.setVariable name value
  | .message text => session.recordMessage text
  | .capacity size => { session with history := session.history.resize size }

/-! ### Arguments -/

/-- The words of a text, `word` being the part of the first that is already read
and `inQuotes` telling whether a quote is open.  Blanks outside quotes end a word.
Quotes are dropped; inside them a backslash is dropped and the character after it
taken as it is.  Empty words are left out. -/
def wordsFrom (word : Text) (inQuotes : Bool) : Text → List Text
  | [] => if word = [] then [] else [word]
  | c :: rest =>
    if c = '"' then wordsFrom word (!inQuotes) rest
    else if inQuotes && c == '\\' then
      match rest with
      | [] => wordsFrom word inQuotes []
      | escaped :: rest => wordsFrom (word ++ [escaped]) inQuotes rest
    else if !inQuotes && Text.isAsciiBlank c then
      if word = [] then wordsFrom [] inQuotes rest else word :: wordsFrom [] inQuotes rest
    else wordsFrom (word ++ [c]) inQuotes rest

/-- The words of a text. -/
def words (text : Text) : List Text :=
  wordsFrom [] false text

/-- A variable set to a value, unless its name is empty. -/
def setting? (name value : Text) : Except Fault Entry :=
  if name = [] then .error .emptyName else .ok (.variable name value)

/-- The variable set by the words after `set`.  The first word has the name and,
after its first `=`, the value; without `=`, the value begins with the second word.
The words of a value are joined by single spaces. -/
def variableOf? (arguments : Text) : Except Fault Entry :=
  match words arguments with
  | [] => .error .missingArgument
  | first :: others =>
    match first.cutAt? (· == '=') with
    | some (name, start) => setting? name (start ++ others.flatMap (' ' :: ·))
    | none =>
      if others = [] then .error (.missingValue first)
      else setting? first (List.intercalate [' '] others)

/-- The number of values of a 64-bit word. -/
def wordSize : Nat := 0x10000000000000000

/-- The whole number that digits after an optional plus spell, if it fits a word. -/
def unsigned? (text : Text) : Option Nat :=
  let digits := (List.isPrefixOf? ['+'] text).getD text
  if digits ≠ [] ∧ digits.all Char.isDigit ∧ Numeral.wholeOf digits < wordSize then
    some (Numeral.wholeOf digits)
  else none

/-- The capacity set by the argument of `histsize`. -/
def capacityOf? (argument : Text) : Except Fault Entry :=
  match unsigned? argument with
  | some size => .ok (.capacity size)
  | none => .error (.invalidCapacity argument)

/-! ### Lines -/

/-- What a line does, if it does anything. -/
def entryOf? (line : Text) : Except Fault (Option Entry) :=
  let line := line.trim
  if line = [] ∨ line.head? = some ';' then .ok none
  else
    let (command, after) := (line.cutAt? Text.isAsciiBlank).getD (line, [])
    let arguments := after.trim
    if command = "set".toList then (variableOf? arguments).map some
    else if command = "message".toList then .ok (some (.message arguments))
    else if command = "histsize".toList then (capacityOf? arguments).map some
    else .ok none

/-- A line that was not understood. -/
structure Issue where
  /-- The number of the line; the first line is number 1. -/
  line : Nat
  /-- What is wrong with it. -/
  fault : Fault
deriving DecidableEq

/-- The text that reports an issue. -/
def Issue.message (issue : Issue) : Text :=
  "line ".toList ++ Nat.toDigits 10 issue.line ++ ": ".toList ++ issue.fault.message

/-- Go through lines, the first of which has the given number. -/
def loadLines (session : Session) (number : Nat) : List Text → Session × List Issue
  | [] => (session, [])
  | line :: rest =>
    match entryOf? line with
    | .ok (some entry) => loadLines (entry.apply session) (number + 1) rest
    | .ok none => loadLines session (number + 1) rest
    | .error fault =>
      let (loaded, issues) := loadLines session (number + 1) rest
      (loaded, ⟨number, fault⟩ :: issues)

/-- The session that a session file starts, and the lines that were not understood. -/
def load (text : Text) : Session × List Issue :=
  loadLines .empty 1 text.lines

end SessionFile

end LineScript
