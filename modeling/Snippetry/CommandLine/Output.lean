import Snippetry.Run.Emission
import Snippetry.Text.ControlSequence

/-! # What commands show -/
namespace Snippetry.CommandLine

/-- The lines of the log that are shown, from the number of times a user asks for more. -/
def leastLevel : Nat → LogLevel
  | 0 => .warn
  | 1 => .debug
  | _ => .trace

/-- The bytes on a stream of the program. Entries of the log that are grave enough are lines on
standard error, without the control sequences in them. -/
def render (least : LogLevel) (stream : Stream) (emissions : List Emission) : Bytes :=
  emissions.flatMap fun emission => match emission with
    | .wrote c => if c.stream = stream then c.bytes else []
    | .logged e =>
      if stream = .err && e.level.rank ≤ least.rank then
        ControlSequence.strip (Utf8.encode e.render)
      else []

/-- How the program ends: with an exit code, or brought down before it has one. -/
inductive Exit
  | code (n : Nat)
  | crash
deriving DecidableEq, Repr

/-- What a command shows, how it ends, and the state it leaves. -/
structure Ended (σ : Type) where
  exit : Exit
  emissions : List Emission
  state : σ

def errorLine (message : Text) : Emission := .toldLine ("error: " ++ message)

end Snippetry.CommandLine
