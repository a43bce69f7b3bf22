import Snippetry.Run.Job

/-! # How runs end -/
namespace Snippetry

inductive Termination
  | exited
  | timedOut
  | cancelled
deriving DecidableEq, Repr

def Termination.word : Termination → Text
  | exited => "Exited"
  | timedOut => "TimedOut"
  | cancelled => "Cancelled"

structure Outcome where
  /-- A process that a signal ended has none. -/
  exitCode : Option Nat
  stderrBytes : Nat
  termination : Termination
deriving DecidableEq, Repr

/-- The interpreter exited with 0 and wrote nothing to its standard error. -/
def Outcome.isSuccess (o : Outcome) : Bool :=
  o.termination = .exited && o.exitCode = some 0 && o.stderrBytes = 0

inductive Ending
  | finished (o : Outcome)
  | failed (e : RunError)
  /-- The deadline lies beyond what a clock can show. -/
  | crashed
deriving DecidableEq, Repr

end Snippetry
