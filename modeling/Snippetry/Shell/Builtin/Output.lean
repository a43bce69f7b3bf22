import Snippetry.Shell.Format
import Snippetry.Shell.State
import Snippetry.Shell.Test

/-! # Builtins that write: `echo` and `printf`, and `test` -/
namespace Snippetry.Shell.Builtin

/-- Write what a builtin has to say; it ends with a status. -/
def answer (t : Text) (status : Nat) : Sh Nat := do
  if ← write 1 t then pure status
  else
    complain (((← get).speaker.getD []) ++ ": I/O error")
    pure (max status 1)

def echo (arguments : List Text) : Sh Nat := answer (echoText arguments) 0

def printf (arguments : List Text) : Sh Nat := do
  match (← options [] arguments).2 with
  | [] => giveUp "usage: printf format [arg ...]"
  | format :: arguments =>
    let f := formatted format arguments
    f.faults.forM complain
    match f.failure with
    | none => answer f.text (if f.faults = [] then 0 else 1)
    | some message =>
      complain message
      let _ ← write 1 f.text
      setStatus 2
      throw .failed

def test (arguments : List Text) : Sh Nat := do
  match Test.verdict (← get).toProcess (arguments.length + 1) arguments with
  | .ok true => pure 0
  | .ok false => pure 1
  | .error message => giveUp message

def bracket (arguments : List Text) : Sh Nat := do
  let closing := (arguments.getLast?.bind List.head?) = some ']'
  if closing then test arguments.dropLast else giveUp "missing ]"

def times : Sh Nat := answer "0m0.000000s 0m0.000000s\n0m0.000000s 0m0.000000s\n" 0

end Snippetry.Shell.Builtin
