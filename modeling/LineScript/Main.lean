/-
The program: the command line on the system it is started on.
-/
import LineScript.CommandLine.Run

namespace LineScript

namespace CommandLine

/-- Why the system says a file cannot be read.  A wrong kind of file is told by its
error number, which is negated when the file could not even be opened. -/
def ReadFault.ofError : IO.Error → ReadFault
  | .noFileOrDirectory .. => .missing
  | .inappropriateType _ code _ =>
    if code = 20 ∨ code = -20 then .notDirectory else .directory
  | error => .other (toString error).toList

/-- All bytes of a stream, up to its end. -/
partial def readAll (stream : IO.FS.Stream) (bytes : ByteArray) : IO ByteArray := do
  let more ← stream.read 65536
  if more.isEmpty then return bytes else readAll stream (bytes ++ more)

/-- The text that an action gives as bytes. -/
def readText (action : IO ByteArray) : IO (Except ReadFault Text) := do
  try
    return textOfBytes (← action)
  catch error =>
    return .error (.ofError error)

/-- Can a path be opened? -/
def canOpen (path : Text) : IO Bool := do
  try
    discard (IO.FS.Handle.mk (String.ofList path) .read)
    return true
  catch error =>
    match ReadFault.ofError error with
    | .missing | .notDirectory => return false
    | _ => return true

/-- Where session files are looked for: the place named by `LOGIC_SESSION`, the
user's configuration directory, and the working directory. -/
def sessionPathsOfEnvironment : IO (List Text) := do
  let named ← IO.getEnv "LOGIC_SESSION"
  let config ← IO.getEnv "XDG_CONFIG_HOME"
  let home ← IO.getEnv "HOME"
  let config := (config.filter (·.startsWith "/")).or (home.map (· ++ "/.config"))
  let paths := named.toList ++ (config.map (· ++ "/logic/session.logic")).toList
  return (paths ++ ["./session.logic"]).map String.toList

/-- The system the program is started on. -/
def system : IO (System IO) := do
  let stdin ← IO.getStdin
  let seed ← IO.getRandomBytes 8
  return {
    readFile := fun path => readText (IO.FS.readBinFile (String.ofList path))
    isThere := canOpen
    readInput := readText (readAll stdin .empty)
    sessionPaths := ← sessionPathsOfEnvironment
    draws := .ofSeed (seed.toList.foldl (fun word byte => word * 256 + byte.toUInt64) 0) }

end CommandLine

end LineScript

/-- Run the command line, write what it leaves behind and give its exit code. -/
def main (arguments : List String) : IO UInt32 := do
  let system ← LineScript.CommandLine.system
  let outcome ← LineScript.CommandLine.run system (arguments.map String.toList)
  IO.print (String.ofList outcome.output)
  for line in outcome.errors do
    IO.eprintln (String.ofList line)
  return outcome.code.toUInt32
