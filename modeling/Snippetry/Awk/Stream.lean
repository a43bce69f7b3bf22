import Snippetry.Awk.State
import Snippetry.Awk.Token

/-! # Records from files and commands, and output to them

Output is kept back until there is enough of it, or until something is carried out that may depend on
it. -/
namespace Snippetry.Awk

/-! ## Records -/

/-- How much is read or written at once. -/
def blockSize : Nat := 4096

/-- Read a block, or all there is up to the end. -/
def readBlock (i : Input) : Action Input := do
  match ← perform (Process.readSome i.descriptor fun t =>
    if blockSize ≤ t.length then some blockSize else none) with
  | some t => pure { i with buffer := i.buffer ++ t, isDone := t.length < blockSize }
  | none => pure { i with isDone := true }

/-- More blocks than this are not read for one record. -/
def mostBlocks : Nat := 1000000

def readAll : Nat → Input → Action Input
  | 0, i => pure i
  | fuel + 1, i => do
    if i.isDone then pure i else readAll fuel (← readBlock i)

def recordUpTo (c : Char) : Nat → Input → Action (Option Text × Input)
  | 0, i => pure (none, i)
  | fuel + 1, i => do
    let t := i.buffer.takeWhile (· ≠ c)
    let rest := i.buffer.drop t.length
    if rest ≠ [] then pure (some t, { i with buffer := rest.tail })
    else if !i.isDone then recordUpTo c fuel (← readBlock i)
    else if t = [] then pure (none, i)
    else pure (some t, { i with buffer := [] })

/-- The first match that is not empty. -/
def separation? (r : Regex) (atStart : Bool) (place : Nat) : Text → Option (Nat × Nat)
  | [] => none
  | c :: t =>
    match r.longest? atStart (c :: t) with
    | some (n + 1) => some (place, n + 1)
    | _ => separation? r false (place + 1) t

/-- A record up to a match, or to an empty line; line ends around it are then left out. -/
def recordBetween (separator : Option Regex) (i : Input) : Option Text × Input :=
  match separator with
  | some r =>
    match separation? r true 0 i.buffer with
    | some (place, length) =>
      (some (i.buffer.take place), { i with buffer := i.buffer.drop (place + length) })
    | none => if i.buffer = [] then (none, i) else (some i.buffer, { i with buffer := [] })
  | none =>
    let t := i.buffer.dropWhile (· = '\n')
    if t = [] then (none, { i with buffer := [] })
    else match Text.splitFirst? "\n\n" t with
      | some (before, after) =>
        (some before, { i with buffer := after.dropWhile (· = '\n') })
      | none => (some (Text.chopEnd '\n' t), { i with buffer := [] })

def nextRecord (i : Input) : Action (Option Text × Input) := do
  match (← get).globalText "RS" with
  | [c] => recordUpTo c mostBlocks i
  | [] => do pure (recordBetween none (← readAll mostBlocks i))
  | t => do pure (recordBetween (some (← patternOf t)) (← readAll mostBlocks i))

/-! ## Output -/

def writeTo (number : Nat) (t : Text) : Action Unit :=
  modify fun s =>
    match (s.toProcess.writeTo? number t : Option Process) with
    | some process => { s with toProcess := process }
    | none => s

/-- What of the text that is kept back is written at once. -/
def readyPart (byLines : Bool) (pending : List Text) : Text × List Text :=
  let size := pending.foldl (fun n t => n + t.length) 0
  if byLines || blockSize ≤ size then
    let t := pending.reverse.flatten
    let count := if byLines then t.length else size - size % blockSize
    (t.take count, if count = t.length then [] else [t.drop count])
  else ([], pending)

def flushStandard : Action Unit := do
  let s ← get
  let t := s.pending.reverse.flatten
  set { s with pending := [] }
  if t ≠ [] then let _ ← perform (Process.write 1 t)

def put (t : Text) : Action Unit := do
  let s ← get
  let (ready, pending) := readyPart (s.isTerminal 1) (t :: s.pending)
  set { s with pending }
  if ready ≠ [] then let _ ← perform (Process.write 1 ready)

def flushOutput (o : OutputStream) : Action Unit :=
  if o.pending.isEmpty then pure () else writeTo o.number o.pending.reverse.flatten

def flushAll : Action Unit := do
  flushStandard
  (← get).outputs.forM flushOutput
  modify fun s => { s with outputs := s.outputs.map fun o => { o with pending := [] } }

/-! ## Commands -/

def shellPath : Text := "/bin/sh"

/-- A process for a command, with something else as one of its descriptors. -/
def childOf (p : Process) (descriptor : Option (Nat × Nat)) : Process :=
  let p := { p with descriptors := p.descriptors.filter fun d => d.1 < 3 }
  let p := match descriptor with
    | some (d, number) => p.connect d number
    | none => p
  { p with keepsStreams := p.opensStream }

def statusOf : Except Nat Nat → Nat
  | .ok status => status % 256
  | .error signal => 256 + signal

section

variable (launch : Process.Launch)

def system (command : Text) : Action Nat := do
  flushAll
  perform do
    let parent ← get
    let (result, child) := launch shellPath "sh" ["-c", command] (childOf parent.child none)
    set (parent.after child)
    pure (statusOf result)

/-- Start a command whose output is read; how it ends and when is known already. -/
def startReading (command : Text) : Action InputStream := do
  flushAll
  let s ← get
  let (number, p) := s.toProcess.addOpening (.pipe [] [] 0)
  let (result, child) := launch shellPath shellPath ["-c", command]
    (childOf p.child (some (1, number)))
  let p := p.adopt child.release
  let descriptor := unused p 3
  set { s with toProcess := p.connect descriptor number }
  pure ⟨command, ⟨descriptor, [], false⟩, some (statusOf result, child.clock)⟩
where
  unused (p : Process) (least : Nat) : Nat :=
    p.descriptors.foldl (fun n d => max n (d.1 + 1)) least

/-- Carry out a command that all was written to that it reads. -/
def finishWriting (o : OutputStream) : Action Nat := do
  flushOutput o
  perform do
    let parent ← get
    let parent : Process := match parent.openings.lookup o.number with
      | some (.pipe ready recent closing) =>
        parent.setOpening o.number (.pipe ready recent (max closing parent.clock))
      | _ => parent
    let child := { childOf parent.child (some (0, o.number)) with clock := o.start }
    let (result, child) := launch shellPath shellPath ["-c", o.name] child
    set (parent.after child)
    pure (statusOf result)

/-! ## Files -/

def failOn {α : Type} (t : Text) (e : FileError) : Action α := do
  complain (t ++ " (" ++ e.reason ++ ")")
  modify fun s => { s with status := 2 }
  throw .failed

def openInput (name : Text) : Action (Except FileError Input) := do
  let s ← get
  if name = ['-'] || name = ("/dev/stdin" : Text) then pure (.ok ⟨0, [], false⟩)
  else
    let path := decodePath name
    match s.toProcess.open? .read path with
    | .error e => pure (.error e)
    | .ok (number, p) =>
      if s.files.isAt FileNode.isDirectory path then failOn "read error" .isDirectory
      else
        let descriptor := startReading.unused p 3
        set { s with toProcess := p.connect descriptor number }
        pure (.ok ⟨descriptor, [], false⟩)

def findInput (name : Text) (isCommand : Bool) : Action (Option InputStream) := do
  pure ((← get).inputs.find? fun i => i.name = name && i.ended.isSome = isCommand)

/-- What is read from under a name, which is opened if it is not yet. -/
def inputNamed (name : Text) (isCommand : Bool) : Action (Option InputStream) := do
  match ← findInput name isCommand with
  | some i => pure (some i)
  | none =>
    if isCommand then do pure (some (← startReading launch name))
    else match ← openInput name with
      | .ok input => pure (some ⟨name, input, none⟩)
      | .error _ => pure none

def keepInput (i : InputStream) : Action Unit :=
  modify fun s => { s with
    inputs := i :: s.inputs.filter fun j =>
      j.name ≠ i.name || j.ended.isSome ≠ i.ended.isSome }

/-- The next record of a file or a command; `none` if that cannot be opened. -/
def recordOf (name : Text) (isCommand : Bool) : Action (Option (Option Text)) := do
  match ← inputNamed launch name isCommand with
  | none => pure none
  | some i =>
    let (t, input) ← nextRecord i.input
    keepInput { i with input }
    pure (some t)

def isStandard (name : Text) : Bool := name = ("/dev/stdout" : Text)

/-- What is written to under a name, which is opened if it is not yet. -/
def outputNamed (r : Redirection) (name : Text) : Action OutputStream := do
  let s ← get
  match s.outputs.find? fun o => o.name = name && o.isCommand = (r = .pipe) with
  | some o => pure o
  | none =>
    if r = .pipe then
      flushAll
      let s ← get
      let (number, p) := s.toProcess.addOpening (.pipe [] [] 0)
      set { s with toProcess := p }
      pure ⟨name, number, true, p.clock, []⟩
    else
      match s.toProcess.open? (if r = .append then .append else .write) (decodePath name) with
      | .ok (number, p) =>
        set { s with toProcess := p }
        pure ⟨name, number, false, p.clock, []⟩
      | .error e => failOn ("cannot open \"" ++ name ++ "\" for output") e

def othersThan (o : OutputStream) (outputs : List OutputStream) : List OutputStream :=
  outputs.filter fun p => p.name ≠ o.name || p.isCommand ≠ o.isCommand

/-- Standard output under its name, by which it takes its turn at the end. -/
def standardNamed (name : Text) : OutputStream := ⟨name, 1, false, 0, []⟩

def putTo (r : Redirection) (name t : Text) : Action Unit := do
  if r ≠ .pipe && isStandard name then
    let o := standardNamed name
    modify fun s => { s with outputs := o :: othersThan o s.outputs }
    put t
  else if r ≠ .pipe && name = ("/dev/stderr" : Text) then
    let _ ← perform (Process.write 2 t)
  else
    let o ← outputNamed r name
    let (ready, pending) := readyPart false (t :: o.pending)
    writeTo o.number ready
    modify fun s => { s with outputs := { o with pending } :: othersThan o s.outputs }

/-- Write all that is kept back; a command is then carried out, and the status is its own. -/
def finishOutput (o : OutputStream) : Action Nat := do
  if o.isCommand then finishWriting launch o
  else
    if isStandard o.name then flushStandard else flushOutput o
    pure 0

def closeOutput (o : OutputStream) : Action Nat := do
  modify fun s => { s with outputs := othersThan o s.outputs }
  if o.isCommand then flushStandard
  finishOutput launch o

/-- Close what is read; the end of a command is waited for. -/
def closeInput (i : InputStream) : Action Nat := do
  modify fun s => { s with
    toProcess := s.disconnect i.input.descriptor
    inputs := s.inputs.filter fun j => j.name ≠ i.name || j.ended.isSome ≠ i.ended.isSome }
  match i.ended with
  | some (status, clock) => do
    perform (modify (Process.waitUntil clock))
    pure status
  | none => pure 0

def close (name : Text) : Action Int := do
  let s ← get
  let outputs := s.outputs.filter fun o => o.name = name
  let inputs := s.inputs.filter fun i => i.name = name
  let written ← outputs.mapM (closeOutput launch)
  let read ← inputs.mapM closeInput
  pure (match (written ++ read).getLast? with
    | some status => status
    | none => -1)

/-- Write what is kept back under a name. -/
def flushNamed (name : Text) : Action Int := do
  if name = [] then
    flushAll
    pure 0
  else if isStandard name then
    flushStandard
    pure 0
  else
    let s ← get
    match s.outputs.filter fun o => o.name = name with
    | [] => pure (-1)
    | outputs =>
      outputs.forM flushOutput
      modify fun s => { s with outputs := s.outputs.map fun o =>
        if o.name = name then { o with pending := [] } else o }
      pure 0

/-- At the end what is written to is closed, the one used last first, and standard output last. -/
def closeAll : Action Unit := do
  (← get).outputs.forM fun o => do
    let _ ← finishOutput launch o
  modify fun s => { s with outputs := [] }
  flushStandard

end

/-! ## The main input -/

/-- A variable that is given a value in an argument. -/
def assignment? (t : Text) : Option (Text × Text) :=
  let name := t.takeWhile fun c => c.isAlphanum || c = '_'
  match t.drop name.length with
  | '=' :: value =>
    if name.head?.any fun c => c.isAlpha || c = '_' then some (name, value) else none
  | _ => none

def assignGiven (name value : Text) : Action Unit :=
  setVariable name (.input (unescaped value))

def startFile (name : Text) : Action Unit :=
  modify fun s => (s.setGlobal "FILENAME" (.text name)).setGlobal "FNR" (.number 0)

/-- More arguments than this are not looked at. -/
def mostFiles : Nat := 100000

/-- Go on to the next file among the arguments, or to standard input if there are none. -/
def nextInput : Nat → Action (Option Input)
  | 0 => pure none
  | fuel + 1 => do
    let s ← get
    let last := truncated (s.global "ARGC").toNumber - 1
    if last < s.argument then
      if s.hasFile then pure none
      else
        set { s with hasFile := true }
        startFile ['-']
        pure (some ⟨0, [], false⟩)
    else
      let number := (s.tableNumbers.lookup ("ARGV" : Text)).getD 0
      let key : Key := ⟨Text.ofNat s.argument, some s.argument⟩
      let (v, _) := (s.table number).access key none
      let t := s.toText (v.getD .unset)
      set { s with argument := s.argument + 1 }
      if t = [] then nextInput fuel
      else match assignment? t with
        | some (name, value) =>
          assignGiven name value
          nextInput fuel
        | none =>
          modify fun s => { s with hasFile := true }
          startFile t
          match ← openInput t with
          | .ok input => pure (some input)
          | .error e => failOn ("cannot open \"" ++ t ++ "\"") e

def mainRecord : Nat → Action (Option Text)
  | 0 => pure none
  | fuel + 1 => do
    let s ← get
    match s.mainInput with
    | some i =>
      let (t?, i) ← nextRecord i
      match t? with
      | some t =>
        let count (s : State) (name : Text) : State :=
          s.setGlobal name (.number ((s.global name).toNumber + 1))
        modify fun s => count (count { s with mainInput := some i } "NR") "FNR"
        pure (some t)
      | none =>
        modify fun s => { s with mainInput := none }
        mainRecord fuel
    | none =>
      match ← nextInput mostFiles with
      | some i =>
        modify fun s => { s with mainInput := some i }
        mainRecord fuel
      | none => pure none

end Snippetry.Awk
