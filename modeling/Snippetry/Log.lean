import Snippetry.Language
import Snippetry.Notice
import Snippetry.Text.Basic

/-! # The log: what the parts of the program report of their work -/
namespace Snippetry

inductive LogLevel
  | error | warn | info | debug | trace
deriving DecidableEq, Repr

namespace LogLevel

/-- From the gravest to the most detailed. -/
def rank : LogLevel → Nat
  | error => 0
  | warn => 1
  | info => 2
  | debug => 3
  | trace => 4

/-- The level's word, five columns wide. -/
def word : LogLevel → Text
  | error => "ERROR"
  | warn => "WARN "
  | info => "INFO "
  | debug => "DEBUG"
  | trace => "TRACE"

end LogLevel

inductive LogEntry
  | snippetOpens (offset : Nat) (language : Language)
  | blockIgnored (tag : Text)
  | snippetResolved (label : Text) (lines : Nat)
  | referenceSkipped (name includer : Text)
  | configLoading (path : Text)
  | sourceWritten (program path : Text)
  | spawning (program : Text) (onTerminal : Bool)
  | killing (program reason : Text)
  | outputStillOpen
  | programFinished (program code : Text)
  | stderrWritten (id : Text) (bytes : Nat)
  | snippetsFailed (count : Nat)
  | directoryUnreadable (path : Text)
deriving DecidableEq, Repr

namespace LogEntry

def level : LogEntry → LogLevel
  | snippetOpens .. => .trace
  | referenceSkipped .. => .warn
  | stderrWritten .. => .info
  | _ => .debug

/-- The part of the program an entry comes from. -/
def origin : LogEntry → Text
  | snippetOpens .. | blockIgnored .. => "mdexe::parser"
  | snippetResolved .. | referenceSkipped .. => "mdexe::resolver"
  | configLoading .. => "mdexe::config"
  | sourceWritten .. => "runner::executor"
  | spawning _ true => "runner::executor::pty"
  | spawning _ false => "runner::executor::pipeline"
  | killing .. | outputStillOpen | programFinished .. => "runner::executor::pump"
  | stderrWritten .. | snippetsFailed .. => "mdexe"
  | directoryUnreadable .. => "mdexe::test_runner"

def message : LogEntry → Text
  | snippetOpens offset language =>
    "snippet opens at byte " ++ Text.ofNat offset ++ " (" ++ language.tag ++ ")"
  | blockIgnored tag => "ignoring fenced block tagged `" ++ tag ++ "`"
  | snippetResolved label lines => "resolved " ++ label ++ " (" ++ Text.ofNat lines ++ " lines)"
  | referenceSkipped name includer => missingReferenceMessage name includer ++ "; skipping"
  | configLoading path => "loading config from " ++ path
  | sourceWritten program path => "wrote " ++ program ++ " source to " ++ path
  | spawning program true => "spawning " ++ program ++ " on a pty"
  | spawning program false => "spawning " ++ program ++ " (pipeline)"
  | killing program reason => "killing " ++ program ++ " (" ++ reason ++ ")"
  | outputStillOpen => "output still open 2s after kill, detaching readers"
  | programFinished program code => program ++ " finished with " ++ code
  | stderrWritten id bytes => "snippet " ++ id ++ " wrote " ++ Text.ofNat bytes ++ " bytes to stderr"
  | snippetsFailed count => Text.ofNat count ++ " snippet(s) failed"
  | directoryUnreadable path => "cannot read test directory " ++ path

def render (e : LogEntry) : Text :=
  "[" ++ e.level.word ++ " " ++ e.origin ++ "] " ++ e.message ++ "\n"

end LogEntry

abbrev Log := List LogEntry

end Snippetry
