import Snippetry.Shell.Builtin.Jobs
import Snippetry.Shell.Builtin.Names
import Snippetry.Shell.Redirect

/-! # Scripts, and what runs in processes of its own

`eval` carries out a command; its first argument tells whether a failure is looked at. -/
namespace Snippetry.Shell

section

variable (eval : Bool → Command → Sh Unit)

/-! ## Scripts -/

/-- Read the commands of the next line from a text; what follows them, and where it stands, comes
along. -/
def nextCommands (line : Nat) (t : Text) : Sh (Option Command × Text × Nat) := do
  let sh ← get
  let (reading, r) := readLine sh.aliases sh.documentCount line t
  set { sh with documents := r.documents ++ sh.documents, documentCount := r.count }
  match reading with
  | .commands c => pure (some c, r.feed.rest, r.feed.line)
  | .ended => pure (none, r.feed.rest, r.feed.line)
  | .failed message =>
    modify fun sh => { sh with line := r.feed.line }
    giveUp message

/-- Show what was read of a script, if that is asked for. -/
def echoScript (t : Text) : Sh Unit := do
  if (← get).has .verbose then
    let _ ← write 2 t

def isNothing : Command → Bool
  | .nothing => true
  | _ => false

/-- Carry out a text line by line. The result is the status of its last command, or the one given if
there is none. -/
def runText (tested echoes : Bool) : Nat → Nat → Text → Nat → Sh Nat
  | 0, _, _, status => pure status
  | fuel + 1, line, t, status => do
    let (c?, rest, line) ← nextCommands line t
    if echoes then echoScript (t.take (t.length - rest.length))
    match c? with
    | none => pure status
    | some c =>
      eval tested c
      let status ← if isNothing c then pure status else do pure (← get).status
      runText tested echoes fuel line rest status

/-- Carry out a text that is no script of its own. -/
def evalString (tested : Bool) (t : Text) : Sh Nat := runText eval tested false (t.length + 2) 1 t 0

def evalAction (t : Text) : Sh Unit := do
  let _ ← evalString eval false t

/-- Carry out a shell to its end, with what is to be done then. -/
def finishing (body : Sh Unit) : Sh Unit := do
  match ← attempt body with
  | some (.killed signal) => throw (.killed signal)
  | _ =>
    let sh ← get
    match sh.traps.lookup 0 with
    | some action =>
      set { sh with traps := dropKey 0 sh.traps, interrupted := some sh.status, loops := 0 }
      match ← attempt (evalAction eval action) with
      | some (.killed signal) => throw (.killed signal)
      | some .failed | some .leaveShell => pure ()
      | _ => setStatus sh.status
    | none => pure ()

/-! ## Processes -/

structure Ended where
  process : Process
  status : Nat
  signal : Option Nat

def Ended.ofResult (process : Process) (result : Except Nat Nat) : Ended :=
  match result with
  | .ok status => ⟨process.release, status % 256, none⟩
  | .error signal => ⟨process.release, 128 + signal, some signal⟩

/-- Carry out in a shell of its own, which knows the same as this one. -/
def fork (sh : State) (body : Sh Unit) : Ended :=
  let child := { sh with
    toProcess := sh.child
    traps := sh.traps.filter fun (_, action) => action = []
    jobs := sh.jobs.map fun job => { job with isOwn := false }
    pending := [], interrupted := none }
  match (finishing eval body : Sh Unit) child with
  | (.error (.killed signal), child) => .ofResult child.toProcess (.error signal)
  | (_, child) => .ofResult child.toProcess (.ok child.status)

/-- Say of a process that it was killed. -/
def mourn (e : Ended) : Sh Unit :=
  match e.signal.map Signal.epitaph with
  | some (c :: t) => do
    let _ ← write 2 (c :: t ++ ['\n'])
  | _ => pure ()

def collect (e : Ended) : Sh Unit := do
  modify fun sh => { sh with toProcess := (sh.adopt e.process).waitUntil e.process.clock }
  noticeJobs
  mourn e
  setStatus e.status

/-- What a command writes, without line ends at its end. -/
def substitute (c : Command) : Sh Text := do
  let sh ← get
  let (number, process) := sh.addOpening (.pipe [] [] 0)
  let e := fork eval { sh with toProcess := process } do
    modify fun sh => { sh with toProcess := sh.connect 1 number }
    eval false c
  let p := e.process
  let (t, closing) : Text × Nat := match p.openings.lookup number with
    | some (.pipe ready recent closing) => ((ready ++ recent.reverse).flatMap Prod.snd, closing)
    | _ => ([], 0)
  let p := { p with openings := dropKey number p.openings }
  set { sh with
    toProcess := (sh.adopt p).waitUntil (max closing p.clock), substituted := e.status }
  noticeJobs
  mourn e
  receive
  pure (t.reverse.dropWhile (· = '\n')).reverse

/-! ## Programs -/

variable (launch : Process.Launch)

/-- Complain about a program that is not carried out. -/
def refuse (name : Text) (e : FileError) : Sh Unit := do
  complain (launchFault name e)
  setStatus (if Process.isAbsence e then 127 else 126)

def programProcess (sh : State) (p : Process) : Process :=
  let ignored := (sh.traps.filter fun (_, action) => action = []).map Prod.fst
  { p with
    environment := sh.exports, keepsStreams := p.opensStream, ignored := ignored ++ p.ignored }

def callProgram (path name : Text) (arguments : List Text) : Sh Unit := do
  let sh ← get
  match sh.files.execute (decodePath path) with
  | .error e => refuse name e
  | .ok () =>
    let (result, process) := launch path name arguments (programProcess sh sh.child)
    collect (.ofResult process result)

def becomeProgram (name : Text) (arguments : List Text) : Sh Unit := do
  let sh ← get
  match Process.program? sh.files (searchPath sh) name with
  | .error e =>
    refuse name e
    throw .leaveShell
  | .ok path =>
    let (result, process) := launch path name arguments (programProcess sh sh.toProcess)
    set { sh with toProcess := process, traps := [] }
    match result with
    | .ok status =>
      setStatus status
      throw .leaveShell
    | .error signal => throw (.killed signal)

end

end Snippetry.Shell
