import Snippetry.Shell.Call

/-! # Carrying out commands

`step` carries out one command, given how to carry out those in it; `evaluate` closes the circle,
with a bound on how deep commands may lie in each other. -/
namespace Snippetry.Shell

/-- Whether a loop goes on after its body was left; what leads further out is handed on. -/
def afterRound : Option Flow → Sh Bool
  | none => pure true
  | some (.leaveLoops n) => if n ≤ 1 then pure false else throw (.leaveLoops (n - 1))
  | some (.nextRound n) => if n ≤ 1 then pure true else throw (.nextRound (n - 1))
  | some flow => throw flow

/-- After so many rounds a loop is taken for endless. -/
def mostRounds : Nat := 100000

/-- After so many milliseconds as well. -/
def mostTime : Nat := 10000000

/-- Repeat for as long as a round says so. One that never says no takes forever. -/
def repeating (round : Sh Bool) : Nat → State → Except Flow Unit × State
  | 0, sh => (perform Process.stall : Sh Unit) sh
  | n + 1, sh =>
    if mostTime < sh.clock then (perform Process.stall : Sh Unit) sh
    else match round sh with
      | (.ok true, sh) => repeating round n sh
      | (.ok false, sh) => (.ok (), sh)
      | (.error flow, sh) => (.error flow, sh)

def eachOf (round : Text → Sh Bool) : List Text → State → Except Flow Unit × State
  | [], sh => (.ok (), sh)
  | t :: ts, sh =>
    match round t sh with
    | (.ok true, sh) => eachOf round ts sh
    | (.ok false, sh) => (.ok (), sh)
    | (.error flow, sh) => (.error flow, sh)

def inLoop (body : Sh Unit) : Sh Unit :=
  restoring (fun old new => { new with loops := old.loops }) do
    modify fun sh => { sh with loops := sh.loops + 1 }
    body

/-- The commands of a sequence, which is nested to the left. -/
def Command.parts : Command → List Command
  | .sequence first second => first.parts ++ [second]
  | c => [c]

/-- A failure at which nothing looks ends the shell, if it is set so. -/
def checkFailure (tested : Bool) : Sh Unit := do
  let sh ← get
  if sh.has .errexit && !tested && sh.status ≠ 0 then throw .leaveShell

section

variable (eval : Bool → Command → Sh Unit) (launch : Process.Launch)

/-! ## Pipelines and jobs -/

/-- A process in the background has nothing to read. -/
def closeInput : Sh Unit := modify fun sh => { sh with toProcess := sh.attach 0 .null }

/-- End a process that writes on although nobody reads any more. -/
def breakPipe (number : Nat) (reader : Ended) (writer : Ended) (p : Process) : Ended × Process :=
  match p.openings.lookup number with
  | some (.pipe ready recent _) =>
    match ready ++ recent.reverse with
    | (time, _) :: _ =>
      let stop := max time reader.process.clock
      if stop < writer.process.clock then
        let process := { writer.process with clock := stop }
        (⟨process, 141, none⟩, p.cutShort writer.process.number stop)
      else (writer, p)
    | [] => (writer, p)
  | _ => (writer, p)

/-- Start the commands of a pipeline, each in a process that reads what the one before writes. -/
def stages (tested inBackground : Bool) : Option (Nat × Ended) → List Command → Sh (List Ended)
  | _, [] => pure []
  | input, c :: cs => do
    let sh ← get
    let (output, process) : Option Nat × Process :=
      if cs.isEmpty then (none, sh.toProcess)
      else
        let (number, process) := sh.addOpening (.pipe [] [] 0)
        (some number, process)
    let e := fork eval { sh with toProcess := process } do
      if inBackground && input.isNone then closeInput
      input.forM fun (number, _) => modify fun sh => { sh with toProcess := sh.connect 0 number }
      output.forM fun number => modify fun sh => { sh with toProcess := sh.connect 1 number }
      eval tested c
    let process := sh.adopt e.process
    match input with
    | none =>
      set { sh with toProcess := process }
      let rest ← stages tested inBackground (output.map fun number => (number, e)) cs
      pure (if output.isSome then rest else e :: rest)
    | some (number, writer) =>
      let (writer, process) := breakPipe number e writer process
      set { sh with toProcess := process }
      let rest ← stages tested inBackground (output.map fun number => (number, e)) cs
      pure (writer :: if output.isSome then rest else e :: rest)

/-- Record a process in the background; `stop` is when the last process of the job ends. -/
def recordJob (e : Ended) (stop : Nat) : Sh Unit :=
  modify fun sh => { sh with
    jobs := sh.jobs ++ [⟨e.process.number, stop, e.status, e.signal, true, false⟩]
    lastJob := some e.process.number, status := 0 }

def pipeline (tested inBackground : Bool) (commands : List Command) : Sh Unit := do
  let ended ← stages eval tested inBackground none commands
  let stop := ended.foldl (fun n e => max n e.process.clock) 0
  match ended.getLast? with
  | none => pure ()
  | some last =>
    if inBackground then recordJob last stop
    else
      modify fun sh => { sh with toProcess := sh.toProcess.waitUntil stop }
      noticeJobs
      ended.forM mourn
      setStatus last.status

/-- Start a command whose end is not waited for. -/
def startJob (body : Sh Unit) : Sh Unit := do
  let sh ← get
  let e := fork eval sh do
    closeInput
    body
  set { sh with toProcess := sh.adopt e.process }
  recordJob e e.process.clock

/-! ## Compound commands -/

def choose (tested : Bool) (subject : Text) : List Clause → Sh Unit
  | [] => setStatus 0
  | .mk patterns body :: clauses => do
    let found ← patterns.anyM fun w => do
      pure ((← Expansion.expandPattern (substitute eval) w).isMatch subject)
    if found then
      if isNothing body then setStatus 0 else eval tested body
    else choose tested subject clauses

/-- The condition and, if it holds, the body. The loop ends as its last body did. -/
def loopRound (tested untilTrue : Bool) (condition body : Command) (first : Bool) : Sh Bool := do
  let earlier := (← get).status
  let before := if first then 0 else earlier
  match ← attempt (eval true condition) with
  | some flow => do
    match flow with
    | .leaveLoops _ | .nextRound _ => setStatus before
    | _ => pure ()
    afterRound (some flow)
  | none =>
    if ((← get).status = 0) = untilTrue then
      setStatus before
      pure false
    else afterRound (← attempt (eval tested body))

def setLine (line : Nat) : Sh Unit :=
  modify fun sh => { sh with line := if line = 0 then sh.line else line }

def evalAll (tested : Bool) : List Command → Sh Unit
  | [] => pure ()
  | c :: cs => do
    eval tested c
    evalAll tested cs

def step (tested : Bool) (c : Command) : Sh Unit := do
  match c with
  | .nothing => pure ()
  | .simple line assignments words redirections =>
    simple eval launch tested line assignments words redirections
    checkFailure tested
  | .redirected line body redirections =>
    setLine line
    let aims ← aimAll (substitute eval) redirections
    keepingDescriptors do
      if ← redirectSafely (substitute eval) aims then eval tested body
      else
        setStatus 2
        checkFailure tested
  | .subshell line body redirections =>
    setLine line
    let aims ← aimAll (substitute eval) redirections
    let sh ← get
    collect (fork eval sh do
      redirectAll (substitute eval) aims
      eval tested body)
    checkFailure tested
  | .background line body redirections =>
    setLine line
    let aims ← aimAll (substitute eval) redirections
    startJob eval do
      redirectAll (substitute eval) aims
      eval false body
  | .pipeline inBackground commands =>
    pipeline eval tested inBackground commands
    checkFailure tested
  | .negated body =>
    eval true body
    modify fun sh => { sh with status := if sh.status = 0 then 1 else 0 }
  | .both first second =>
    eval true first
    if (← get).status = 0 then eval tested second
  | .either first second =>
    eval true first
    if (← get).status ≠ 0 then eval tested second
  | .sequence first second => evalAll eval tested (first.parts ++ [second])
  | .conditional condition positive negative =>
    eval true condition
    if (← get).status = 0 then eval tested positive
    else match negative with
      | some c => eval tested c
      | none => setStatus 0
  | .loop untilTrue condition body =>
    inLoop do
      if ← loopRound eval tested untilTrue condition body true then
        repeating (loopRound eval tested untilTrue condition body false) mostRounds
  | .forEach line name words body =>
    setLine line
    let fields ← Expansion.expandWords (substitute eval) words
    if fields.isEmpty then setStatus 0
    inLoop do
      eachOf (fun t => do
        assignVariable name t
        afterRound (← attempt (eval tested body))) fields
  | .choice line subject clauses =>
    setLine line
    choose eval tested (← Expansion.expandText (substitute eval) subject) clauses
  | .define line name body =>
    modify fun sh => { sh with functions := setKey name ⟨line, body⟩ sh.functions }
    setStatus 0

end

/-- How deep commands may lie in each other, calls of functions included. -/
def deepest : Nat := 2000

/-- Carry out a command, and see to the signals that arrive. -/
def evaluate (launch : Process.Launch) : Nat → Bool → Command → Sh Unit
  | 0, _, _ => throw (.killed 11)
  | depth + 1, tested, c => do
    if !(← get).has .noexec then
      let eval := evaluate launch depth
      let most := Signal.names.length
      takeSignals (evalAction eval) most
      step eval launch tested c
      takeSignals (evalAction eval) most

end Snippetry.Shell
