import Snippetry.Shell.Evaluate

/-! # Sessions: the shell from its start to its end -/
namespace Snippetry.Shell

/-- The variables of a shell: its own, and those it finds around it. -/
def startVariables (p : Process) (parent : Nat) : List Variable :=
  let own : List Variable :=
    [⟨"TERM", none, false, false⟩, ⟨"OPTIND", none, false, false⟩, ⟨"PS4", some "+ ", false, false⟩,
     ⟨"PS2", some "> ", false, false⟩, ⟨"PS1", some "# ", false, false⟩,
     ⟨"PATH", some Process.standardSearch, false, false⟩, ⟨"MAILPATH", none, false, false⟩,
     ⟨"MAIL", none, false, false⟩, ⟨"IFS", none, false, false⟩]
  let given := p.environment.foldl (fun vs (name, value) =>
    if isName name then State.putVariable ⟨name, some value, true, false⟩ vs else vs) own
  let set (name value : Text) (exported : Bool) (vs : List Variable) : List Variable :=
    let old := (vs.find? fun v => v.name = name).getD ⟨name, none, false, false⟩
    State.putVariable { old with value := some value, exported := old.exported || exported } vs
  set "PWD" (encodePath (Files.pathOf p.files.here)) true
    (set "PPID" (Text.ofNat parent) false (set "OPTIND" ['1'] false (set "IFS" " \t\n" false given)))

/-- A shell before its first command. -/
def State.start (name : Text) (p : Process) : State :=
  { p with
    name, mainProcess := p.number, bindings := startVariables p 1, functions := [], aliases := []
    arguments := [], settings := [], found := [], status := 0, substituted := 0, loops := 0, traps := []
    pending := [], interrupted := none, line := 0, speaker := none, jobs := [], lastJob := none
    locals := [], optionIndex := 1, optionPlace := none, documents := [], documentCount := 0
    tracing := false }

/-! ## Arguments of the shell -/

inductive Origin
  | text (t : Text)
  | file (path : Text)
  | input

/-- Switch settings by their letters; `c` asks for a script among the arguments. -/
def callLetters (on : Bool) (letters : Text) (rest : List Text) : Sh (Bool × List Text) := do
  let others := letters.filter fun c => c ≠ 'c' && c ≠ 'l'
  let rest ← Builtin.switchLetters on others rest
  pure ('c' ∈ letters, rest)

/-- Switch settings, as the arguments of a shell say. The second result tells whether a script is among
them. -/
def callSettings : Nat → Bool → List Text → Sh (List Text × Bool)
  | 0, hasText, arguments => pure (arguments, hasText)
  | fuel + 1, hasText, arguments => do
    match arguments with
    | ['-'] :: rest | ['-', '-'] :: rest => pure (rest, hasText)
    | ('-' :: letters) :: rest =>
      let (more, rest) ← callLetters true letters rest
      callSettings fuel (hasText || more) rest
    | ('+' :: letters) :: rest =>
      let (more, rest) ← callLetters false letters rest
      callSettings fuel (hasText || more) rest
    | _ => pure (arguments, hasText)

/-- What the arguments of a shell ask it to carry out. -/
def originOf (arguments : List Text) : Sh Origin := do
  let (rest, hasText) ← callSettings (arguments.length + 1) false arguments
  match hasText, rest with
  | true, [] => giveUp "-c requires an argument"
  | true, t :: rest =>
    modify fun sh => { sh with name := rest.headD sh.name, arguments := rest.tail }
    pure (.text t)
  | false, path :: rest => do
    if (← get).has .stdin then
      modify fun sh => { sh with arguments := path :: rest }
      pure .input
    else
      modify fun sh => { sh with arguments := rest }
      pure (.file path)
  | false, [] =>
    modify fun sh => sh.switch .stdin true
    pure .input

/-! ## Scripts from standard input -/

/-- How much is read at once. -/
def blockSize : Nat := 8192

/-- Read until there are so many characters, or no more. -/
def readBlocks (wanted : Nat) : Nat → Text → Sh Text
  | 0, read => pure read
  | fuel + 1, read => do
    if wanted ≤ read.length then pure read
    else match ← perform (Process.readBlock 0 blockSize) with
      | some (c :: t) => readBlocks wanted fuel (read ++ c :: t)
      | _ => pure read

/-- Carry out what comes on standard input, of which `buffer` is read already. -/
def runInput (eval : Bool → Command → Sh Unit) : Nat → Nat → Text → Sh Unit
  | 0, _, _ => pure ()
  | fuel + 1, line, buffer => do
    let sh ← get
    let remainder := match sh.descriptors.lookup 0 with
      | some number => if sh.isTerminal 0 then [] else sh.remainder number
      | none => []
    if buffer = [] && sh.isTerminal 0 then perform Process.stall
    let all := buffer ++ remainder
    let (c?, rest, line) ← nextCommands line all
    let consumed := all.length - rest.length
    let buffer ← readBlocks (if c?.isNone then consumed + 1 else consumed) longest buffer
    echoScript (all.take consumed)
    match c? with
    | none => pure ()
    | some c =>
      eval false c
      runInput eval fuel line (buffer.drop consumed)

def session (launch : Process.Launch) (arguments : List Text) : Sh Unit := do
  let eval := evaluate launch deepest
  match ← originOf arguments with
  | .text t =>
    let _ ← evalString eval false t
    if (← get).has .stdin then runInput eval longest 1 []
  | .file path =>
    let sh ← get
    let script ← match sh.files.node? (decodePath path) with
      | .ok (.file content) => pure (textOf content)
      | .ok _ => pure []
      | .error e => giveUp (openFault .read path e)
    set { sh with name := path }
    let _ ← runText eval false true (script.length + 2) 1 script 0
  | .input => runInput eval longest 1 []

def program (launch : Process.Launch) (name : Text) (arguments : List Text) : Act Nat := fun p =>
  let eval := evaluate launch deepest
  match (finishing eval (session launch arguments) : Sh Unit) (State.start name p) with
  | (.error (.killed signal), sh) => (.error signal, sh.toProcess)
  | (_, sh) => (.ok (sh.status % 256), sh.toProcess)

end Snippetry.Shell
