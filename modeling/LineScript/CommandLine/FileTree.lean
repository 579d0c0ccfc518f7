/-
Files held in memory.

A tree of files is given by the relative paths of its files; the directories are
those the paths lead through, and the one they start from.  Paths are resolved step
by step, as a system does: every step but the last must lead to a directory.
-/
import LineScript.CommandLine.System

namespace LineScript

namespace CommandLine

/-- The parts of a path between its slashes. -/
def pathParts : Text → List Text
  | [] => [[]]
  | '/' :: rest => [] :: pathParts rest
  | c :: rest =>
    match pathParts rest with
    | [] => [[c]]
    | part :: parts => (c :: part) :: parts

/-- Files by the parts of their paths. -/
structure FileTree where
  /-- Each file's path, in parts, with its bytes. -/
  files : List (List Text × ByteArray)

namespace FileTree

/-- What is found at a path. -/
inductive Node where
  /-- A file with its bytes. -/
  | file (bytes : ByteArray)
  /-- The directory at the given parts. -/
  | directory (parts : List Text)
  /-- A directory outside the tree, of which only other directories outside are known. -/
  | outside

/-- Does a part of a path stay where it is? -/
def staysPut (part : Text) : Bool :=
  part == [] || part == ['.']

/-- Files by their paths; parts that do not lead anywhere are left out. -/
def ofPaths (files : List (Text × ByteArray)) : FileTree :=
  ⟨files.map fun (path, bytes) => ((pathParts path).filter (!staysPut ·), bytes)⟩

/-- The file or directory at the given parts. -/
def node? (tree : FileTree) (parts : List Text) : Option Node :=
  match tree.files.lookup parts with
  | some bytes => some (.file bytes)
  | none =>
    if parts = [] ∨ tree.files.any (fun file => parts.isPrefixOf file.1) then
      some (.directory parts)
    else none

/-- Follow the parts of a path from a node. -/
def follow (tree : FileTree) : Node → List Text → Except ReadFault Node
  | node, [] => .ok node
  | .file _, _ :: _ => .error .notDirectory
  | .directory parts, part :: rest =>
    if staysPut part then tree.follow (.directory parts) rest
    else if part = ['.', '.'] then
      tree.follow (if parts = [] then .outside else .directory parts.dropLast) rest
    else
      match tree.node? (parts ++ [part]) with
      | some node => tree.follow node rest
      | none => .error .missing
  | .outside, part :: rest =>
    if staysPut part ∨ part = ['.', '.'] then tree.follow .outside rest else .error .missing

/-- What is at a path.  A path that starts with a slash starts outside the tree; at
the empty path there is nothing. -/
def find (tree : FileTree) (path : Text) : Except ReadFault Node :=
  match path with
  | [] => .error .missing
  | '/' :: rest => tree.follow .outside (pathParts rest)
  | path => tree.follow (.directory []) (pathParts path)

/-- The text of the file at a path. -/
def read (tree : FileTree) (path : Text) : Except ReadFault Text := do
  match ← tree.find path with
  | .file bytes => textOfBytes bytes
  | .directory _ | .outside => .error .directory

/-- Is there a file or directory at a path? -/
def isThere (tree : FileTree) (path : Text) : Bool :=
  (tree.find path).toOption.isSome

/-- A system with these files and the given bytes on its standard input. -/
def system (tree : FileTree) (input : ByteArray) (sessionPaths : List Text) (draws : Draws) :
    System Id where
  readFile path := tree.read path
  isThere path := tree.isThere path
  readInput := textOfBytes input
  sessionPaths := sessionPaths
  draws := draws

end FileTree

end CommandLine

end LineScript
