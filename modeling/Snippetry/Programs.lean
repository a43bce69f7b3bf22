import Snippetry.Awk.Session
import Snippetry.Shell.Session
import Snippetry.Utility.Cat
import Snippetry.Utility.Plain

/-! # The programs at hand, and the files around them -/
namespace Snippetry.Programs

def shells : List Text := ["sh".toList, "dash".toList]

def awks : List Text := ["awk".toList, "mawk".toList, "nawk".toList]

def tools : List (Text × Utility.Tool) :=
  [("basename", Utility.basename), ("cat", Utility.Cat.tool), ("dirname", Utility.dirname),
   ("echo", Utility.echo), ("env", Utility.env), ("false", Utility.fail), ("head", Utility.head),
   ("ls", Utility.ls), ("printenv", Utility.printenv), ("rev", Utility.rev), ("seq", Utility.seq),
   ("sleep", Utility.sleep), ("sort", Utility.sort), ("stty", Utility.stty), ("tac", Utility.tac),
   ("tail", Utility.tail), ("tr", Utility.tr), ("true", Utility.succeed), ("tty", Utility.tty),
   ("uniq", Utility.uniq), ("wc", Utility.wc)]

/-- Carry out a program; programs may call others, up to a depth. -/
def carryOut : Nat → Process.Launch
  | 0, _, _, _ => pure 126
  | depth + 1, path, name, arguments =>
    let kind := Utility.baseName path
    if shells.contains kind then Shell.program (carryOut depth) name arguments
    else if awks.contains kind then Awk.program (carryOut depth) name arguments
    else match tools.lookup kind with
      | some tool => tool name arguments
      | none => pure 126

/-- How many processes may lie in each other. -/
def deepest : Nat := 100

def launch : Process.Launch := carryOut deepest

/-! ## Files -/

def directory : FileNode :=
  .directory ((shells ++ awks ++ tools.map Prod.fst).map fun name => (name, .program))

def emptyDirectories (names : List String) : List (Text × FileNode) :=
  names.map fun name => (name.toList, .directory [])

def files (kind : FileNode) (names : List String) : List (Text × FileNode) :=
  names.map fun name => (name.toList, kind)

/-- The files of a system on which nobody has done anything. -/
def system : FileNode :=
  let devices : FileNode := .directory (files .device
    ["full", "null", "random", "stderr", "stdin", "stdout", "tty", "urandom", "zero"])
  let settings : FileNode := .directory (files (.file [])
    ["group", "hostname", "hosts", "passwd", "profile"])
  let added : FileNode := .directory (emptyDirectories ["bin", "sbin"])
  let users : FileNode := .directory
    (("bin".toList, directory) :: ("local".toList, added)
      :: emptyDirectories ["include", "lib", "sbin", "share"])
  .directory ([("bin".toList, directory), ("dev".toList, devices), ("etc".toList, settings),
    ("usr".toList, users)]
    ++ emptyDirectories ["boot", "home", "lib", "lib64", "media", "mnt", "opt", "proc", "root", "run",
      "sbin", "srv", "sys", "tmp", "var"])

end Snippetry.Programs
