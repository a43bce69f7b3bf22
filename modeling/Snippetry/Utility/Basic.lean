import Snippetry.Process.Basic
import Snippetry.Text.FileName

/-! # Small programs: what they have in common

A program is called with its name and its arguments, and ends with a status. -/
namespace Snippetry.Utility

abbrev Tool := Text → List Text → Act Nat

/-- Write to standard output; a process that cannot is told apart by no one. -/
def say (t : Text) : Act Unit := do
  let _ ← Process.write 1 t

def complain (name t : Text) : Act Unit := do
  let _ ← Process.write 2 (name ++ ": " ++ t ++ ['\n'])

def refuse (name t : Text) (status : Nat) : Act Nat := do
  complain name t
  let _ ← Process.write 2 ("Try '" ++ name ++ " --help' for more information.\n")
  pure status

/-- A descriptor to read a file from; a dash stands for standard input. -/
def openFile (path : Text) : Act (Except Text Nat) := do
  let p ← get
  if path = ['-'] then
    match p.opening? 0 with
    | none => pure (.error "Bad file descriptor")
    | some (.file names _ _ _) =>
      if p.files.isAt FileNode.isDirectory (Files.pathOf names) then pure (.error "Is a directory")
      else pure (.ok 0)
    | some _ => pure (.ok 0)
  else
    let decoded := decodePath path
    if p.files.isAt FileNode.isDirectory decoded then pure (.error "Is a directory")
    else match p.open? .read decoded with
      | .ok (number, p) =>
        set (p.connect 3 number)
        pure (.ok 3)
      | .error e => pure (.error e.reason)

def readFile (path : Text) : Act (Except Text Text) := do
  match ← openFile path with
  | .error reason => pure (.error reason)
  | .ok descriptor => do pure (.ok ((← Process.readAll descriptor).getD []))

/-- Apply a function to each file, or to standard input if there are none, and write what it gives. -/
def onFiles (name : Text) (paths : List Text) (f : Text → Text) : Act Nat :=
  each (if paths.isEmpty then [['-']] else paths) 0
where
  each : List Text → Nat → Act Nat
    | [], status => pure status
    | path :: paths, status => do
      match ← readFile path with
      | .ok t =>
        say (f t)
        each paths status
      | .error reason =>
        complain name (FileName.quoted path ++ ": " ++ reason)
        each paths 1

end Snippetry.Utility
