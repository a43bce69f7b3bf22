import Snippetry.Text.Basic
import Snippetry.Text.Utf8

/-! # Files and directories, by path -/
namespace Snippetry

inductive FileNode
  | file (content : Bytes)
  /-- Reads as empty, and is neither a file nor a directory. -/
  | device
  /-- A file that can be executed. -/
  | program
  | directory (entries : List (Text × FileNode))

inductive FileError
  | notFound
  | notADirectory
  | isDirectory
  | nameTooLong
  | denied
  | nulInName
  | notUtf8
deriving DecidableEq, Repr

namespace FileError

def number? : FileError → Option Nat
  | notFound => some 2
  | denied => some 13
  | notADirectory => some 20
  | isDirectory => some 21
  | nameTooLong => some 36
  | nulInName | notUtf8 => none

def reason : FileError → Text
  | notFound => "No such file or directory"
  | denied => "Permission denied"
  | notADirectory => "Not a directory"
  | isDirectory => "Is a directory"
  | nameTooLong => "File name too long"
  | nulInName => "file name contained an unexpected NUL byte"
  | notUtf8 => "stream did not contain valid UTF-8"

def message (e : FileError) : Text :=
  match e.number? with
  | some n => e.reason ++ " (os error " ++ Text.ofNat n ++ ")"
  | none => e.reason

end FileError

namespace FileNode

def entries : FileNode → List (Text × FileNode)
  | directory entries => entries
  | _ => []

def isDirectory : FileNode → Bool
  | directory _ => true
  | _ => false

def isFile : FileNode → Bool
  | file _ | program => true
  | _ => false

def isDevice : FileNode → Bool
  | device => true
  | _ => false

def isProgram : FileNode → Bool
  | program => true
  | _ => false

def setEntry (name : Text) (child : FileNode) :
    List (Text × FileNode) → List (Text × FileNode)
  | [] => [(name, child)]
  | (n, c) :: entries =>
    if n = name then (n, child) :: entries else (n, c) :: setEntry name child entries

/-- Put a node at the end of a path of names, making the directories on the way. -/
def put (node : FileNode) : List Text → FileNode → FileNode
  | [], _ => node
  | name :: names, parent =>
    let child := (parent.entries.lookup name).getD (directory [])
    directory (setEntry name (put node names child) parent.entries)

end FileNode

/-- The tree of all files, and the names that lead from its root to the working directory. -/
structure Files where
  root : FileNode
  here : List Text

namespace Files

def longestName : Nat := 255

def longestPath : Nat := 4095

/-- Follow names from a directory whose ancestors are given, the nearest first. -/
def walk (node : FileNode) (ancestors : List FileNode) : List Text → Except FileError FileNode
  | [] => .ok node
  | name :: names =>
    if !node.isDirectory then .error .notADirectory
    else if name = [] ∨ name = ['.'] then walk node ancestors names
    else if name = ['.', '.'] then
      match ancestors with
      | [] => walk node [] names
      | parent :: ancestors => walk parent ancestors names
    else if longestName < name.size then .error .nameTooLong
    else match node.entries.lookup name with
      | some child => walk child (node :: ancestors) names
      | none => .error .notFound

def node? (files : Files) (path : Text) : Except FileError FileNode :=
  if '\x00' ∈ path then .error .nulInName
  else if path = [] then .error .notFound
  else if longestPath < path.size then .error .nameTooLong
  else
    let names := Text.splitOn '/' path
    walk files.root [] (if path.head? = some '/' then names else files.here ++ names)

/-- Whether a path leads to something of a kind. -/
def isAt (files : Files) (kind : FileNode → Bool) (path : Text) : Bool :=
  match files.node? path with
  | .ok node => kind node
  | .error _ => false

def isFile (files : Files) (path : Text) : Bool := files.isAt FileNode.isFile path

/-- The names that lead from the root to what a path names. -/
def names (files : Files) (path : Text) : List Text :=
  let names := Text.splitOn '/' path
  (if path.head? = some '/' then names else files.here ++ names).foldl (fun found name =>
    if name = [] ∨ name = ['.'] then found
    else if name = ['.', '.'] then found.dropLast
    else found ++ [name]) []

def put (files : Files) (names : List Text) (node : FileNode) : Files :=
  { files with root := node.put names files.root }

def pathOf (names : List Text) : Text := '/' :: Text.join ['/'] names

/-- A program can be executed if nothing stands in the way. -/
def execute (files : Files) (path : Text) : Except FileError Unit := do
  match ← files.node? path with
  | .program => .ok ()
  | _ => .error .denied

def readBytes (files : Files) (path : Text) : Except FileError Bytes :=
  match files.node? path with
  | .ok (.file content) => .ok content
  | .ok .device | .ok .program => .ok []
  | .ok (.directory _) => .error .isDirectory
  | .error e => .error e

def read (files : Files) (path : Text) : Except FileError Text := do
  match Utf8.decode? (← files.readBytes path) with
  | some t => .ok t
  | none => .error .notUtf8

end Files
end Snippetry
