import Snippetry.Text.Basic

/-! # Signals -/
namespace Snippetry.Shell.Signal

/-- The names of the signals by number; those from 34 on are counted from the ends. -/
def names : List Text :=
  (["EXIT", "HUP", "INT", "QUIT", "ILL", "TRAP", "ABRT", "BUS", "FPE", "KILL", "USR1", "SEGV", "USR2",
    "PIPE", "ALRM", "TERM", "16", "CHLD", "CONT", "STOP", "TSTP", "TTIN", "TTOU", "URG", "XCPU",
    "XFSZ", "VTALRM", "PROF", "WINCH", "IO", "PWR", "SYS", "32", "33", "RTMIN"].map String.toList)
    ++ (List.range 15).map (fun n => "RTMIN+" ++ Text.ofNat (n + 1))
    ++ (List.range 14).map (fun n => "RTMAX-" ++ Text.ofNat (14 - n))
    ++ ["RTMAX".toList]

def name (n : Nat) : Text := (names[n]?).getD []

def lowercase (t : Text) : Text := t.map Char.toLower

/-- The number of a signal, given by its number or by its name in any case. -/
def number? (least : Nat) (t : Text) : Option Nat :=
  match Text.toNat? t with
  | some n => if n < names.length then some n else none
  | none =>
    ((List.range names.length).drop least).find? fun n => lowercase (name n) = lowercase t

def isHarmless (n : Nat) : Bool :=
  n = 0 || n = 17 || n = 18 || n = 19 || n = 20 || n = 21 || n = 22 || n = 23 || n = 28

/-- What is said of a process that a signal ended; nothing for some. -/
def epitaph (n : Nat) : Text :=
  match n with
  | 1 => "Hangup"
  | 2 | 13 => []
  | 3 => "Quit"
  | 4 => "Illegal instruction"
  | 5 => "Trace/breakpoint trap"
  | 6 => "Aborted"
  | 7 => "Bus error"
  | 8 => "Floating point exception"
  | 9 => "Killed"
  | 10 => "User defined signal 1"
  | 11 => "Segmentation fault"
  | 12 => "User defined signal 2"
  | 14 => "Alarm clock"
  | 15 => "Terminated"
  | 16 => "Stack fault"
  | 24 => "CPU time limit exceeded"
  | 25 => "File size limit exceeded"
  | 26 => "Virtual timer expired"
  | 27 => "Profiling timer expired"
  | 29 => "I/O possible"
  | 30 => "Power failure"
  | 31 => "Bad system call"
  | n => if 34 ≤ n then "Real-time signal " ++ Text.ofNat (n - 34) else "Unknown signal " ++ Text.ofNat n

end Snippetry.Shell.Signal
