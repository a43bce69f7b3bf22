import Snippetry.Run.Invocation
import Snippetry.Table
import Snippetry.Snippet

/-! # Jobs: snippets made ready to run -/
namespace Snippetry

inductive RunMode
  /-- The program arrives on standard input, and output is piped. -/
  | pipeline
  /-- The program is in a file, and the interpreter has a terminal of its own. -/
  | terminal
deriving DecidableEq, Repr

structure RunOptions where
  mode : RunMode
  /-- Laid over the inherited environment. -/
  env : Table
  unbuffered : Bool
  /-- In milliseconds. -/
  timeout : Option Nat
  /-- Whether there is a token for cancelling, and if so whether it was used beforehand. -/
  cancelled : Option Bool
  interactive : Bool
  /-- Programs to use in place of the interpreters of the canonical tags. -/
  interpreters : Table

def RunOptions.default : RunOptions := ⟨.pipeline, [], false, none, none, false, []⟩

structure Job where
  invocation : Invocation
  source : Text
  env : List (Text × Text)
  timeout : Option Nat
  cancelled : Option Bool
  interactive : Bool

/-- Why a snippet was not run at all. -/
inductive RunError
  | spawn (program reason : Text)
  | sourceFile (reason : Text)
  | terminal (reason : Text)
  | unresolved (label : Text)
  | io (reason : Text)
deriving DecidableEq, Repr

def RunError.message : RunError → Text
  | spawn program reason => "cannot run `" ++ program ++ "`: " ++ reason
  | sourceFile reason => "cannot write temporary source file: " ++ reason
  | terminal reason => "pseudo-terminal error: " ++ reason
  | unresolved label => "snippet " ++ label ++ " has not been resolved"
  | io reason => "I/O error: " ++ reason

/-- Set for a Python that writes without delay. -/
def unbufferedEntry : Text × Text := ("PYTHONUNBUFFERED", "YES")

/-- The variable of an unbuffered run comes last, so that it prevails. -/
def RunOptions.jobEnv (o : RunOptions) : List (Text × Text) :=
  o.env ++ if o.unbuffered then [unbufferedEntry] else []

/-- Make an expanded snippet ready to run. -/
def RunOptions.prepare (o : RunOptions) (s : Snippet) : Except RunError Job :=
  match s.resolvedLines? with
  | none => .error (.unresolved s.label)
  | some lines =>
    let invocation := s.language.invocation
    let program := (o.interpreters.lookup s.language.tag).getD invocation.program
    .ok ⟨{ invocation with program }, s.language.program lines, o.jobEnv, o.timeout, o.cancelled,
      o.interactive⟩

theorem RunOptions.timeout_of_prepare {o : RunOptions} {s : Snippet} {job : Job}
    (h : o.prepare s = .ok job) : job.timeout = o.timeout := by
  unfold prepare at h
  split at h <;> cases h
  rfl

end Snippetry
