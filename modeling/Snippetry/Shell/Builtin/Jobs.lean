import Snippetry.Shell.Builtin.Output
import Snippetry.Shell.Signal

/-! # Builtins about processes and signals -/
namespace Snippetry.Shell

/-! ## Signals that arrive -/

/-- Let the end of the process take effect at a time that is over already. -/
def dieAt (time signal : Nat) : Sh Unit := do
  modify fun sh => { sh with toProcess := { sh.cutShort sh.number time with clock := time } }
  throw (.killed signal)

/-- Take note of the signals that have arrived. One for which there is no action may end the shell. -/
def receive : Sh Unit := do
  let sh ← get
  let (arrived, process) := sh.toProcess.received
  if !arrived.isEmpty then
    set { sh with toProcess := process }
    arrived.forM fun s =>
      if s.signal ≠ 9 && s.signal ∈ sh.ignored then pure ()
      else match if s.signal = 9 then none else sh.traps.lookup s.signal with
      | some [] => pure ()
      | some _ => modify fun sh =>
        { sh with pending := sh.pending.filter (· ≠ s.signal) ++ [s.signal] }
      | none => if Signal.isHarmless s.signal then pure () else dieAt s.time s.signal

/-- Carry out the action for a signal. Afterwards the status is what it was. -/
def act (carryOut : Text → Sh Unit) (action : Text) : Sh Unit := do
  let sh ← get
  let status := sh.interrupted.getD sh.status
  restoring (fun old new => { new with interrupted := old.interrupted }) do
    set { sh with interrupted := some status }
    match ← attempt (carryOut action) with
    | none => setStatus status
    | some flow =>
      match flow with
      | .leaveFunction false | .leaveLoops _ | .nextRound _ => setStatus status
      | _ => pure ()
      throw flow

def takeSignals (carryOut : Text → Sh Unit) : Nat → Sh Unit
  | 0 => pure ()
  | fuel + 1 => do
    receive
    let sh ← get
    match sh.pending with
    | [] => pure ()
    | n :: others =>
      set { sh with pending := others }
      match sh.traps.lookup n with
      | some (c :: action) => act carryOut (c :: action)
      | _ => pure ()
      takeSignals carryOut fuel

/-! ## Jobs -/

/-- Take account of signals that other processes sent to a job. -/
def BackgroundJob.settled (job : BackgroundJob) (signals : List Sent) : BackgroundJob :=
  match signals.find? fun s =>
    s.target = job.number && s.time < job.stop && !Signal.isHarmless s.signal with
  | some s => { job with stop := s.time, status := 128 + s.signal, signal := some s.signal }
  | none => job

def settleJobs : Sh Unit :=
  modify fun sh => { sh with jobs := sh.jobs.map fun job => job.settled sh.signals }

def noticeJobs : Sh Unit := do
  settleJobs
  modify fun sh => { sh with
    jobs := sh.jobs.map fun job =>
      { job with noticed := job.noticed || job.isOwn && job.stop ≤ sh.clock } }

namespace Builtin

/-- The first signal with an action that arrives while something is waited for up to a moment. -/
def interruption (sh : State) (moment : Nat) : Option Sent :=
  sh.signals.find? fun s =>
    s.target = sh.number && s.time < moment
      && match sh.traps.lookup s.signal with
        | some (_ :: _) => true
        | _ => false

/-- Wait up to a moment, or until a signal arrives. -/
def waitFor (moment : Nat) : Sh (Option Nat) := do
  let sh ← get
  match interruption sh moment with
  | some s =>
    set { sh with toProcess := sh.toProcess.waitUntil s.time }
    receive
    pure (some (128 + s.signal))
  | none =>
    set { sh with toProcess := sh.toProcess.waitUntil moment }
    receive
    pure none

def jobOf (argument : Text) : Sh (Option BackgroundJob) := do
  let own := (← get).jobs.filter BackgroundJob.isOwn
  match argument with
  | '%' :: t =>
    let found := match Text.toNat? t with
      | some n => own[n - 1]?
      | none => if t = [] || t = ['%'] || t = ['+'] then own.getLast? else none
    match found with
    | some job => pure (some job)
    | none => giveUp ("No such job: " ++ argument)
  | t =>
    let n ← number t
    pure (own.find? fun job => job.number = n)

def wait (arguments : List Text) : Sh Nat := do
  let (_, arguments) ← options [] arguments
  settleJobs
  if arguments = [] then
    let own := (← get).jobs.filter BackgroundJob.isOwn
    match ← waitFor (own.foldl (fun n job => max n job.stop) 0) with
    | some status => pure status
    | none =>
      noticeJobs
      pure 0
  else waitAll arguments 127
where
  waitAll : List Text → Nat → Sh Nat
    | [], status => pure status
    | argument :: rest, _ => do
      match ← jobOf argument with
      | none => waitAll rest 127
      | some job =>
        match ← waitFor job.stop with
        | some status => pure status
        | none =>
          match if job.noticed then none else job.signal.map Signal.epitaph with
          | some (c :: t) =>
            let _ ← write 2 (c :: t ++ ['\n'])
          | _ => pure ()
          noticeJobs
          waitAll rest job.status

/-- Send a signal, and tell whether there is a process that gets it. -/
def signal (target n : Nat) : Sh Bool := do
  settleJobs
  let sh ← get
  match sh.jobs.find? fun job => job.number = target && !job.noticed with
  | some job =>
    let isIgnored := Signal.isHarmless n || n = 2 || n = 3 || (sh.traps.lookup n) = some []
    if job.stop > sh.clock && !isIgnored then
      let process := (sh.cutShort target sh.clock).send target n
      let ended : BackgroundJob :=
        { job with stop := sh.clock, status := 128 + n, signal := some n }
      set { sh with
        toProcess := process
        jobs := sh.jobs.map fun (j : BackgroundJob) => if j.number = target then ended else j }
    pure true
  | none =>
    if target = sh.number || target = sh.mainProcess then
      if n ≠ 0 then set { sh with toProcess := sh.send target n }
      pure true
    else pure false

def killUsage : Text :=
  "Usage: kill [-s sigspec | -signum | -sigspec] [pid | job]... or\nkill -l [exitstatus]"

def signalNames (arguments : List Text) : Sh Nat := do
  match arguments with
  | [] => answer ((['0'] :: Signal.names.tail).flatMap fun name => name ++ ['\n']) 0
  | t :: _ =>
    let n ← number t
    let n := if 128 < n then n - 128 else n
    if 0 < n && n < Signal.names.length then answer (Signal.name n ++ ['\n']) 0
    else giveUp ("invalid signal number or exit status: " ++ t)

def sendAll (n : Nat) : List Text → Nat → Sh Nat
  | [], status => pure status
  | t :: rest, status => do
    let target ← match t with
      | '%' :: _ => do pure ((← jobOf t).map BackgroundJob.number)
      | '-' :: _ => pure none
      | _ => do pure (some (← number t))
    let found ← match target with
      | some target => signal target n
      | none => pure false
    if found then sendAll n rest status
    else
      complain "No such process\n"
      sendAll n rest 1

def kill (arguments : List Text) : Sh Nat := do
  let named := match arguments with
    | ('-' :: t) :: _ => Signal.number? 1 t
    | _ => none
  match named with
  | some n => if arguments.tail = [] then giveUp killUsage else sendAll n arguments.tail 0
  | none =>
    let (chosen, rest) ← options "ls:" arguments
    if chosen.any fun (c, _) => c = 'l' then signalNames rest
    else
      let n ← match chosen.getLast? with
        | some (_, t) => match Signal.number? 1 t with
          | some n => pure n
          | none => giveUp ("invalid signal number or name: " ++ t)
        | none => pure 15
      if rest = [] then giveUp killUsage else sendAll n rest 0

/-! ## Actions -/

def insertAction (action : Nat × Text) : List (Nat × Text) → List (Nat × Text)
  | [] => [action]
  | a :: rest => if action.1 < a.1 then action :: a :: rest else a :: insertAction action rest

def trap (arguments : List Text) : Sh Nat := do
  let (_, arguments) ← options [] arguments
  let isNumber (t : Text) : Bool := (Text.toNat? t).any fun n => n < Signal.names.length
  match arguments with
  | [] =>
    let actions := (← get).traps.foldl (fun sorted a => insertAction a sorted) []
    answer (actions.flatMap fun (n, action) =>
      "trap -- " ++ singleQuote action ++ ' ' :: Signal.name n ++ ['\n']) 0
  | [t] => setAll none [t]
  | action :: rest =>
    if isNumber action then setAll none arguments
    else setAll (if action = ['-'] then none else some action) rest
where
  setAll (action : Option Text) : List Text → Sh Nat
    | [] => pure 0
    | t :: rest => do
      match Signal.number? 0 t with
      | some n =>
        modify fun sh => { sh with traps := match action with
          | some action => setKey n action sh.traps
          | none => dropKey n sh.traps }
        setAll action rest
      | none =>
        let _ ← write 2 ("trap: " ++ t ++ ": bad trap\n")
        pure 1

/-! ## Lists of jobs -/

def jobState (sh : State) (job : BackgroundJob) : Text :=
  if sh.clock < job.stop then "Running"
  else match job.signal with
    | some n => Signal.epitaph n
    | none => if job.status = 0 then "Done" else "Done(" ++ Text.ofNat job.status ++ ")"

def jobs (arguments : List Text) : Sh Nat := do
  let _ ← options "lp" arguments
  settleJobs
  let sh ← get
  let own := sh.jobs.filter BackgroundJob.isOwn
  let lines := own.zipIdx.map fun (job, n) =>
    let sign : Text := if n + 1 = own.length then " + " else if n + 2 = own.length then " - " else "   "
    Text.padRight 33 ('[' :: Text.ofNat (n + 1) ++ ']' :: sign ++ jobState sh job) ++ ['\n']
  modify fun sh => { sh with jobs := sh.jobs.filter fun job => !job.isOwn || sh.clock < job.stop }
  answer lines.reverse.flatten 0

/-- Jobs cannot be brought to the front or put back. -/
def moveJob (arguments : List Text) : Sh Nat := do
  let (_, arguments) ← options [] arguments
  match arguments with
  | t :: _ =>
    let _ ← jobOf t
    giveUp ("job " ++ t ++ " not created under job control")
  | [] =>
    if ((← get).jobs.filter BackgroundJob.isOwn).isEmpty then giveUp "No current job"
    else giveUp "job (null) not created under job control"

/-- There are no limits. -/
def ulimit (arguments : List Text) : Sh Nat := do
  let (chosen, arguments) ← options "HSatfdsmcnpvlwre" arguments
  if arguments ≠ [] then pure 0
  else
    let known := (chosen.filter fun (c, _) => c ≠ 'H' && c ≠ 'S').getLast?.map Prod.fst
    answer (match known with
      | some 'n' => "1048576\n"
      | _ => "unlimited\n") 0

end Builtin
end Snippetry.Shell
