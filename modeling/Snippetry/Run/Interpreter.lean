import Snippetry.Programs
import Snippetry.Run.Job

/-! # The interpreters at hand, as processes of their own -/
namespace Snippetry

/-- What a run finds around it. -/
structure Machine where
  environment : Table
  files : Files

namespace Interpreter

/-- A program with all that it is called with. Texts are as bytes. -/
structure Call where
  program : Text
  arguments : List Text
  environment : List (Text × Text)
  input : Text
  onTerminal : Bool

def bytewise (t : Text) : Text := textOf (Utf8.encode t)

def searchPath (environment : List (Text × Text)) : Text :=
  (environment.lookup ("PATH" : Text)).getD Process.standardSearch

/-- A variable as a process sees it: its name ends at the first sign for equality. -/
def entryOf (name value : Text) : Text × Text :=
  match Text.splitFirst? ['='] (name ++ '=' :: value) with
  | some pair => pair
  | none => (name, value)

/-- The process before it does anything. -/
def Call.start (c : Call) (files : Files) : Process where
  number := 4242
  latest := 4242
  environment := c.environment.map fun (name, value) => entryOf name value
  files := files
  descriptors := if c.onTerminal then [(0, 1), (1, 1), (2, 2)] else [(0, 0), (1, 1), (2, 2)]
  openings := [(2, .stream .err), (1, .stream .out), (0, .pipe [(0, c.input)] [] 0)]
  mask := 18
  onTerminal := c.onTerminal
  clock := 0
  writes := []
  holds := []
  signals := []
  ignored := []
  inBackground := false
  keepsStreams := true

/-- What the program does in the course of time, and the files after it. -/
def Call.carryOut (c : Call) (files : Files) : Timeline × Files :=
  let path := match Process.program? files (searchPath c.environment) c.program with
    | .ok path => path
    | .error _ => c.program
  let (result, p) := Programs.launch path c.program c.arguments (c.start files)
  (⟨p.writes.reverse, p.holds, p.clock, result.toOption⟩, p.files)

/-- Why a program cannot be called, if it cannot. -/
def spawnError? (files : Files) (environment : List (Text × Text)) (program : Text) : Option Text :=
  if '\x00' ∈ program || environment.any fun (key, value) => '\x00' ∈ key || '\x00' ∈ value then
    some "nul byte found in provided data"
  else if program = [] then some FileError.notFound.message
  else if '/' ∉ program && Files.longestName < program.size then
    some FileError.nameTooLong.message
  else match Process.program? files (searchPath environment) (bytewise program) with
    | .ok _ => none
    | .error e => some (if '/' ∈ program then e.message
      else if e = .denied then e.message else FileError.notFound.message)

end Interpreter
end Snippetry
