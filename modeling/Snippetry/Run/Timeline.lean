import Snippetry.Text.Utf8

/-! # What a process does in the course of time

Times are in milliseconds. -/
namespace Snippetry

inductive Stream
  | out
  | err
deriving DecidableEq, Repr

/-- Bytes that a process wrote to a stream. What a process other than the first one writes survives
the end of that. -/
structure Write where
  time : Nat
  stream : Stream
  bytes : Bytes
  process : Nat
  survives : Bool
deriving DecidableEq, Repr

/-- How long a process keeps the streams open. -/
structure Hold where
  start : Nat
  stop : Nat
  process : Nat
  survives : Bool
deriving DecidableEq, Repr

structure Timeline where
  writes : List Write
  holds : List Hold
  exitTime : Nat
  /-- A process that a signal ended has none. -/
  exitCode : Option Nat
deriving DecidableEq, Repr

namespace Timeline

/-- End the process at a time. What it did by then, and what survives it, stays. -/
def killAt (t : Timeline) (time : Nat) : Timeline :=
  if t.exitTime ≤ time then t
  else
    ⟨t.writes.filter fun w => w.survives || w.time ≤ time,
     (t.holds.filter (·.start ≤ time)).map fun h =>
       if h.survives then h else { h with stop := min h.stop time },
     time, none⟩

/-- When nothing holds the streams open any more. -/
def closing (t : Timeline) : Nat :=
  t.writes.foldl (fun latest w => max latest w.time)
    (t.holds.foldl (fun latest h => max latest h.stop) 0)

/-- No more chunks than this come of the writes. -/
def volume (t : Timeline) : Nat := (t.writes.flatMap Write.bytes).length + t.writes.length + 1

/-- Writes of several processes in the order of their times. -/
def sorted (t : Timeline) : Timeline :=
  { t with writes := t.writes.reverse.foldl (fun writes w => insertEarlier w writes) [] }
where
  insertEarlier (w : Write) : List Write → List Write
    | [] => [w]
    | v :: writes => if v.time < w.time then v :: insertEarlier w writes else w :: v :: writes

/-- Nothing survives a process that has the terminal, and a signal counts as an exit with 1. -/
def onTerminal (t : Timeline) : Timeline :=
  ⟨(t.writes.filter fun w => w.time ≤ t.exitTime).map fun w => { w with survives := false },
   t.holds.map fun h => { h with stop := min h.stop t.exitTime, survives := false },
   t.exitTime, some (t.exitCode.getD 1)⟩

end Timeline
end Snippetry
