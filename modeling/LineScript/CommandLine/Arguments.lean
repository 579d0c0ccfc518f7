/-
Command-line arguments.

Options are single letters after a dash and may be bundled.  `d` takes no value and
may be followed by more letters.  `c`, `s` and `m` take a value, which is the rest
of the argument or else the whole next one, whatever it looks like.  `f` takes the
rest of the argument or the next one, the latter only if it does not start with a
dash, and may go without.  A dash alone and everything that does not start with a
dash is positional, and so is everything after `--`.

Reading is done in two steps.  The first turns the arguments into the groups they
form, and stops at the first one that forms none; the second collects the groups.
-/
import LineScript.Text.Blank

namespace LineScript

namespace CommandLine

/-- Why arguments are refused. -/
inductive ArgumentFault where
  | missingArgument (option : Char)
  | unknownOption (option : Char)
  /-- What should be an assignment has no `=`, or no name before it. -/
  | badAssignment (text : Text)
  /-- There are more positional arguments than there may be. -/
  | tooManyArguments (count : Nat)
deriving DecidableEq

/-- The text that reports why arguments are refused. -/
def ArgumentFault.message : ArgumentFault → Text
  | .missingArgument option => '-' :: option :: " requires an argument".toList
  | .unknownOption option => "unknown option: -".toList ++ [option]
  | .badAssignment text => "expected name=value, got \x27".toList ++ text ++ ['\x27']
  | .tooManyArguments count => "too many arguments (".toList ++ Nat.toDigits 10 count ++ [')']

/-! ### Groups -/

/-- What one or two neighbouring arguments say. -/
inductive Group where
  /-- Report what is being done. -/
  | debug
  /-- Start from a session file, or from none. -/
  | session (path? : Option Text)
  | script (text : Text)
  | assignment (name value : Text)
  | message (text : Text)
  /-- Neither an option nor its value. -/
  | positional (text : Text)
deriving DecidableEq

/-- The name and value of `name=value`.  The name is trimmed and must not be blank;
the value is taken as it is. -/
def assignment? (text : Text) : Except ArgumentFault Group :=
  match text.cutAt? (· == '=') with
  | some (name, value) =>
    if name.trim = [] then .error (.badAssignment text) else .ok (.assignment name.trim value)
  | none => .error (.badAssignment text)

/-- What an option that takes a value says with it; `none` if it is no such option. -/
def withValue? (option : Char) : Option (Text → Except ArgumentFault Group) :=
  if option = 'c' then some fun value => .ok (.script value)
  else if option = 's' then some assignment?
  else if option = 'm' then some fun value => .ok (.message value)
  else none

/-- Does an argument start with a dash? -/
def startsWithDash (argument : Text) : Bool :=
  argument.head? = some '-'

/-- The groups that arguments form. -/
def groups : List Text → Except ArgumentFault (List Group)
  | [] => .ok []
  | argument :: rest =>
    if argument = ['-', '-'] then .ok (rest.map .positional)
    else if argument = ['-'] ∨ !startsWithDash argument then do
      return .positional argument :: (← groups rest)
    else
      let letters := argument.tail
      let debug := (letters.takeWhile (· == 'd')).map fun _ => Group.debug
      match letters.dropWhile (· == 'd') with
      | [] => do return debug ++ (← groups rest)
      | option :: attached =>
        if option = 'f' then
          if attached ≠ [] then do
            return debug ++ .session (some attached) :: (← groups rest)
          else
            match rest with
            | next :: others =>
              if startsWithDash next then do
                return debug ++ .session none :: (← groups (next :: others))
              else do
                return debug ++ .session (some next) :: (← groups others)
            | [] => .ok (debug ++ [.session none])
        else
          match withValue? option with
          | none => .error (.unknownOption option)
          | some group =>
            if attached ≠ [] then do
              let group ← group attached
              return debug ++ group :: (← groups rest)
            else
              match rest with
              | next :: others => do
                let group ← group next
                return debug ++ group :: (← groups others)
              | [] => .error (.missingArgument option)

/-! ### What the groups say together -/

/-- Which session file to start from. -/
inductive SessionChoice where
  | search
  | skip
  | file (path : Text)
deriving DecidableEq

/-- Where the script comes from. -/
inductive ScriptSource where
  | stdin
  | inline (text : Text)
  | file (path : Text)
deriving DecidableEq

/-- What a command line asks for. -/
structure Arguments where
  /-- Which session file to start from. -/
  session : SessionChoice := .search
  /-- Where the script comes from. -/
  script : ScriptSource := .stdin
  /-- The variables to set before the script runs, in order. -/
  assignments : List (Text × Text) := []
  /-- The messages to record before the script runs, in order. -/
  messages : List Text := []
  /-- Report what is being done. -/
  debug : Bool := false
deriving DecidableEq

namespace Arguments

/-- Add what one group says, positional arguments apart. -/
def add (arguments : Arguments) : Group → Arguments
  | .debug => { arguments with debug := true }
  | .session none => { arguments with session := .skip }
  | .session (some path) => { arguments with session := .file path }
  | .script text => { arguments with script := .inline text }
  | .assignment name value =>
    { arguments with assignments := arguments.assignments ++ [(name, value)] }
  | .message text => { arguments with messages := arguments.messages ++ [text] }
  | .positional _ => arguments

/-- The positional argument that a group is. -/
def positional? : Group → Option Text
  | .positional text => some text
  | _ => none

/-- What groups say together.  There may be one positional argument, which is the
script's file or a dash for standard input, and none beside an inline script. -/
def ofGroups (groups : List Group) : Except ArgumentFault Arguments :=
  let arguments := groups.foldl add {}
  match groups.filterMap positional? with
  | [] => .ok arguments
  | [path] =>
    if arguments.script ≠ .stdin then .error (.tooManyArguments 1)
    else if path = ['-'] then .ok arguments
    else .ok { arguments with script := .file path }
  | paths => .error (.tooManyArguments paths.length)

/-- Read a command line. -/
def read (arguments : List Text) : Except ArgumentFault Arguments := do
  ofGroups (← groups arguments)

end Arguments

end CommandLine

end LineScript
