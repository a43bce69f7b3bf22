import Snippetry.Log
import Snippetry.Run.Chunk
import Snippetry.Run.Outcome

/-! # Supervision: forward the output of a process, and end it when it has run for too long

The supervisor is a machine. It asks the world around it, of which it knows no more than a `World`
tells, and goes from phase to phase until it is done. -/
namespace Snippetry

/-- What comes of waiting for output. -/
inductive Receipt
  | chunk (c : Chunk)
  /-- There was nothing for a while. -/
  | nothing
  /-- All streams are closed. -/
  | closed
deriving DecidableEq

/-- What the supervisor asks for. Times are in milliseconds. -/
structure World (σ : Type) where
  receive : StateM σ Receipt
  write : Chunk → StateM σ (Except Text Unit)
  now : StateM σ Nat
  isCancelled : StateM σ Bool
  kill : StateM σ (Except Text Unit)
  /-- Wait for the process to exit. -/
  wait : StateM σ (Except Text (Option Nat))
  /-- The exit code, if the process has exited. -/
  tryWait : StateM σ (Except Text (Option (Option Nat)))
  pause : StateM σ Unit
  log : LogEntry → StateM σ Unit

structure Kill where
  reason : Termination
  time : Nat
deriving DecidableEq

inductive Phase
  /-- Output is forwarded; `count` bytes of it were standard error. -/
  | forwarding (kill : Option Kill) (count : Nat)
  /-- The process is waited for. -/
  | reaping (kill : Option Kill) (count : Nat)
  | done (e : Ending)
deriving DecidableEq

/-- In milliseconds, how long output is still forwarded after the process was killed. -/
def grace : Nat := 2000

/-- The latest time a clock can show, in seconds. -/
def lastSecond : Nat := 9223372036854775807

/-- A clock that has not gone through half of its seconds can show the end of such a time limit. -/
def WithinReach (timeout : Option Nat) : Prop := ∀ length ∈ timeout, length / 1000 ≤ lastSecond / 2

namespace World

variable {σ : Type} (w : World σ)

/-- Why the process should be killed now, if it should. Cancellation comes before the deadline. -/
def stopReason (deadline : Option Nat) : StateM σ (Option Termination) := do
  if ← w.isCancelled then pure (some .cancelled)
  else match deadline with
    | none => pure none
    | some time => do pure (if time ≤ (← w.now) then some .timedOut else none)

/-- Kill the process, which may be gone already. -/
def stop (program : Text) (reason : Termination) : StateM σ Kill := do
  w.log (.killing program reason.word)
  let _ ← w.kill
  pure ⟨reason, ← w.now⟩

/-- Kill and reap the process after an error. -/
def abandon (e : RunError) : StateM σ Phase := do
  let _ ← w.kill
  let _ ← w.wait
  pure (.done (.failed e))

/-- After each chunk, or while nothing comes: see whether to go on. -/
def review (program : Text) (deadline : Option Nat) (kill : Option Kill) (count : Nat) :
    StateM σ Phase := do
  match kill with
  | none =>
    match ← w.stopReason deadline with
    | some reason => do pure (.forwarding (some (← w.stop program reason)) count)
    | none => pure (.forwarding none count)
  | some k =>
    if k.time + grace ≤ (← w.now) then
      w.log .outputStillOpen
      pure (.reaping kill count)
    else pure (.forwarding kill count)

def exited (program : Text) (kill : Option Kill) (count : Nat) (exitCode : Option Nat) :
    StateM σ Phase := do
  w.log (.programFinished program (exitWord exitCode))
  pure (.done (.finished ⟨exitCode, count, (kill.map Kill.reason).getD .exited⟩))
where
  exitWord : Option Nat → Text
    | some n => "Some(" ++ Text.ofNat n ++ ")"
    | none => "None"

def step (program : Text) (deadline : Option Nat) : Phase → StateM σ Phase
  | .forwarding kill count => do
    match ← w.receive with
    | .closed => pure (.reaping kill count)
    | .nothing => w.review program deadline kill count
    | .chunk c =>
      match ← w.write c with
      | .error reason => w.abandon (.io reason)
      | .ok () =>
        w.review program deadline kill (count + if c.stream = .err then c.bytes.length else 0)
  | .reaping (some k) count => do
    match ← w.wait with
    | .error reason => pure (.done (.failed (.io reason)))
    | .ok exitCode => w.exited program (some k) count exitCode
  | .reaping none count => do
    match ← w.tryWait with
    | .error reason => pure (.done (.failed (.io reason)))
    | .ok (some exitCode) => w.exited program none count exitCode
    | .ok none =>
      match ← w.stopReason deadline with
      | some reason => do pure (.reaping (some (← w.stop program reason)) count)
      | none => do
        w.pause
        pure (.reaping none count)
  | .done e => pure (.done e)

/-- Take so many steps, or fewer if it is done before. -/
def run (program : Text) (deadline : Option Nat) : Nat → Phase → StateM σ Phase
  | 0, p => pure p
  | _, .done e => pure (.done e)
  | n + 1, p => do
    let next ← w.step program deadline p
    run program deadline n next

/-- The time at which the process has run for too long; `none` if no clock can show it. -/
def deadline (timeout : Option Nat) : StateM σ (Option (Option Nat)) := do
  match timeout with
  | none => pure (some none)
  | some length => do
    let time := (← w.now) + length
    pure (if time / 1000 ≤ lastSecond then some (some time) else none)

/-- Supervise a process for at most `steps` steps. -/
def supervise (steps : Nat) (program : Text) (timeout : Option Nat) : StateM σ Phase := do
  match ← w.deadline timeout with
  | none => pure (.done .crashed)
  | some deadline => w.run program deadline steps (.forwarding none 0)

section

variable (program : Text) (steps : Nat) (s : σ) {length : Nat}

theorem deadline_of_le (h : ((w.now s).1 + length) / 1000 ≤ lastSecond) :
    w.deadline (some length) s = (some (some ((w.now s).1 + length)), (w.now s).2) :=
  congrArg (·, (w.now s).2) (if_pos h)

theorem deadline_of_lt (h : lastSecond < ((w.now s).1 + length) / 1000) :
    w.deadline (some length) s = (none, (w.now s).2) :=
  congrArg (·, (w.now s).2) (if_neg (Nat.not_le_of_lt h))

theorem supervise_of_deadline {timeout deadline : Option Nat} {after : σ}
    (h : w.deadline timeout s = (some deadline, after)) :
    w.supervise steps program timeout s =
      w.run program deadline steps (.forwarding none 0) after := by
  simp [supervise, bind, StateT.bind, h]

theorem supervise_of_no_deadline {timeout : Option Nat} {after : σ}
    (h : w.deadline timeout s = (none, after)) :
    w.supervise steps program timeout s = (.done .crashed, after) := by
  simp only [supervise, bind, StateT.bind, h]
  rfl

end

end World
end Snippetry
