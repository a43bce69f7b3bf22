import Snippetry.Shell.Builtin.Place
import Snippetry.Shell.Builtin.Variables
import Snippetry.Shell.Child

/-! # Simple commands

First the words expand, as far as it takes to know what is called; then come the redirections, the
assignments and the call. -/
namespace Snippetry.Shell

section

variable (eval : Bool → Command → Sh Unit) (launch : Process.Launch)

/-! ## Builtins that carry out commands -/

def findScript (name : Text) : Sh Text := do
  let sh ← get
  if '/' ∈ name then pure name
  else match (Process.candidates (searchPath sh) name).find? fun path =>
      sh.files.isAt FileNode.isFile (decodePath path) with
    | some path => pure path
    | none => giveUp (name ++ ": not found")

/-- Carry out a file in this shell. -/
def includeScript (arguments : List Text) : Sh Nat := do
  match (← options [] arguments).2 with
  | [] => pure 0
  | name :: _ =>
    let path ← findScript name
    let sh ← get
    let script ← match sh.files.node? (decodePath path) with
      | .ok (.file content) => pure (textOf content)
      | .ok _ => pure []
      | .error e => giveUp (openFault .read path e)
    set { sh with speaker := some path }
    let status ← runText eval false true (script.length + 2) 1 script 0
    pure status

/-- Carry out a file up to a return from it. -/
def dot (arguments : List Text) : Sh Nat := do
  try includeScript eval arguments
  catch flow =>
    match flow with
    | .leaveFunction _ => do pure (← get).status
    | flow => throw flow

/-- How many loops a builtin is about, no more than there are. -/
def loopCount (arguments : List Text) : Sh Nat := do
  let n ← match arguments with
    | [] => pure 1
    | t :: _ =>
      let n ← number t
      if n = 0 then giveUp ("Illegal number: " ++ t)
      pure n
  pure (min n (← get).loops)

def exitWith (arguments : List Text) : Sh Nat := do
  match arguments with
  | [] => modify fun sh => { sh with status := sh.interrupted.getD sh.status }
  | t :: _ => setStatus (← number t)
  throw .leaveShell

def returnWith (arguments : List Text) : Sh Nat := do
  match arguments with
  | [] => throw (.leaveFunction false)
  | t :: _ =>
    setStatus (← number t)
    throw (.leaveFunction true)

/-- Replace the shell by a program, if one is named; without one only the redirections stay. -/
def exec (arguments : List Text) : Sh Nat := do
  modify fun sh => { sh with keepsStreams := sh.opensStream }
  match arguments with
  | [] => pure 0
  | name :: arguments =>
    becomeProgram launch name arguments
    pure 0

def builtin (tested : Bool) (name : Text) (arguments : List Text) : Sh Nat :=
  match String.ofList name with
  | ":" | "true" => pure 0
  | "false" => pure 1
  | "." => dot eval arguments
  | "eval" => evalString eval tested (Text.join [' '] arguments)
  | "exec" => exec launch arguments
  | "exit" => exitWith arguments
  | "return" => returnWith arguments
  | "break" => do
    let n ← loopCount arguments
    setStatus 0
    if n = 0 then pure 0 else throw (.leaveLoops n)
  | "continue" => do
    let n ← loopCount arguments
    setStatus 0
    if n = 0 then pure 0 else throw (.nextRound n)
  | "export" => Builtin.exportAll arguments
  | "readonly" => Builtin.readonlyAll arguments
  | "local" => Builtin.localAll arguments
  | "set" => Builtin.setAll arguments
  | "shift" => Builtin.shift arguments
  | "times" => Builtin.times
  | "trap" => Builtin.trap arguments
  | "unset" => Builtin.unsetAll arguments
  | "alias" => Builtin.setAlias arguments
  | "unalias" => Builtin.unalias arguments
  | "cd" | "chdir" => Builtin.cd arguments
  | "command" => Builtin.command arguments
  | "echo" => Builtin.echo arguments
  | "printf" => Builtin.printf arguments
  | "test" => Builtin.test arguments
  | "[" => Builtin.bracket arguments
  | "getopts" => Builtin.getopts arguments
  | "hash" => Builtin.hash arguments
  | "type" => Builtin.type arguments
  | "kill" => Builtin.kill arguments
  | "wait" => Builtin.wait arguments
  | "jobs" => Builtin.jobs arguments
  | "fg" | "bg" => Builtin.moveJob arguments
  | "pwd" => Builtin.pwd arguments
  | "umask" => Builtin.umask arguments
  | "read" => Builtin.read arguments
  | _ => Builtin.ulimit arguments

/-- Call a builtin. Unless it is `fatal`, an error in it only gives it a status. -/
def callBuiltin (tested fatal : Bool) (name : Text) (arguments : List Text) : Sh Unit :=
  restoring (fun old new => { new with speaker := old.speaker }) do
    modify fun sh => { sh with speaker := some name }
    match ← attempt (do setStatus (← builtin eval launch tested name arguments)) with
    | none => pure ()
    | some .failed => if fatal then throw .failed
    | some flow => throw flow

def callFunction (tested : Bool) (f : Function) (arguments : List Text) : Sh Unit :=
  restoring (fun old new => { new with
      arguments := old.arguments, loops := old.loops, optionIndex := old.optionIndex
      optionPlace := old.optionPlace }) do
    modify fun sh => { sh with arguments, loops := 0, optionIndex := 1, optionPlace := none }
    match ← attempt (eval tested f.body) with
    | none | some (.leaveFunction _) => pure ()
    | some flow => throw flow

/-! ## What is called -/

/-- A simple command whose first words are expanded. -/
structure Called where
  fields : List Text
  /-- What is still to be expanded. -/
  words : List Word
  /-- Whether the first name was that of a special builtin; `none` if it was no builtin. -/
  special : Option Bool
  /-- Whether its arguments may be assignments. -/
  assigns : Bool
  functions : Bool
  standard : Bool

namespace Called

/-- Whether what is assigned stays assigned. -/
def keepsAssignments (c : Called) : Bool := c.fields = [] || c.special = some true

def isExec (c : Called) : Bool := c.fields.head? = some "exec".toList && c.special.isSome

end Called

/-- Expand words until there is a field. -/
def expandFirst : List Word → Sh (List Text × List Word)
  | [] => pure ([], [])
  | w :: ws => do
    match ← Expansion.expandWord (substitute eval) w with
    | [] => expandFirst ws
    | fields => pure (fields, ws)

/-- Fields that were passed over, those from the name of a command on if there is one, and words. -/
structure Skimmed where
  passed : List Text
  rest : Option (List Text)
  words : List Word
  standard : Bool

/-- Pass over the options of `command`, as long as they do not ask for something else. -/
def skim : Nat → Skimmed → List Text → Sh Skimmed
  | 0, s, _ => pure s
  | fuel + 1, s, fields => do
    let (fields, words) ←
      if fields = [] then expandFirst eval s.words else pure (fields, s.words)
    let s := { s with words }
    match fields with
    | [] => pure s
    | ['-', '-'] :: rest => do
      let (rest, words) ← if rest = [] then expandFirst eval words else pure (rest, words)
      pure (if rest = [] then { s with passed := s.passed ++ fields, words }
        else { s with rest := some rest, words })
    | ('-' :: c :: letters) :: rest =>
      if (c :: letters).all (· = 'p') then
        skim fuel { s with passed := s.passed ++ fields.take 1, standard := true } rest
      else pure { s with passed := s.passed ++ fields }
    | _ => pure { s with rest := some fields }

/-- Find out what is called, as far as it matters before the call. -/
def recognise : Nat → Called → Sh Called
  | 0, c => pure c
  | fuel + 1, c => do
    let sh ← get
    let name := c.fields.headD []
    if !isBuiltin name || c.functions && (sh.functions.lookup name).isSome then pure c
    else
      let c := { c with
        special := c.special <|> some (isSpecial name)
        assigns := (["alias", "export", "local", "readonly"].map String.toList).contains name }
      if name = ("command" : Text) then
        let s ← skim eval (c.fields.length + c.words.length + 1) ⟨[name], none, c.words, c.standard⟩
          c.fields.tail
        match s.rest with
        | none => pure { c with fields := s.passed, words := s.words }
        | some fields =>
          recognise fuel { c with
            fields, words := s.words, functions := false, standard := s.standard, assigns := false }
      else pure c

/-- The arguments that are still words. -/
def expandRest (assigns : Bool) : List Word → Sh (List Text)
  | [] => pure []
  | w :: ws => do
    let fields ←
      if assigns && isAssignment w then do
        pure [← Expansion.expandAssignment (substitute eval) w]
      else Expansion.expandWord (substitute eval) w
    pure (fields ++ (← expandRest assigns ws))

/-! ## The call -/

def assignAll (isLocal exported : Bool) : List Word → Sh (List Text)
  | [] => pure []
  | w :: ws => do
    let t ← Expansion.expandAssignment (substitute eval) w
    if isLocal then Builtin.makeLocal true t
    else
      let name := t.takeWhile (· ≠ '=')
      let value := t.drop (name.length + 1)
      if exported then Builtin.exportVariable name value else assignVariable name value
    pure (t :: (← assignAll isLocal exported ws))

/-- Show a command before it is carried out, where messages went before its redirections. -/
def trace (messages : Option Nat) (shown : List Text) : Sh Unit := do
  let sh ← get
  if sh.has .xtrace && !sh.tracing then
    set { sh with tracing := true }
    let start ← match readPrompt ((sh.value? "PS4").getD []) with
      | some w => Expansion.expandDocument (substitute eval) w
      | none => pure []
    modify fun sh => { sh with tracing := false }
    let sh ← get
    let line := start ++ Text.join [' '] shown ++ ['\n']
    match messages.bind fun number => sh.writeTo? number line with
    | some process => set { sh with toProcess := process }
    | none => pure ()

def invoke (tested : Bool) (c : Called) (fields : List Text) : Sh Unit := do
  match fields with
  | [] => setStatus (← get).substituted
  | name :: arguments =>
    match ← locate c.functions c.standard name with
    | .error e =>
      complain (launchFault name e)
      setStatus 127
    | .ok (.function f) => callFunction eval tested f arguments
    | .ok .builtin => callBuiltin eval launch tested (c.special = some true) name arguments
    | .ok (.program path) => callProgram launch path name arguments

def simple (tested : Bool) (line : Nat) (assignments words : List Word)
    (redirections : List Redirection) : Sh Unit := do
  modify fun sh => { sh with line, substituted := 0 }
  let (fields, words) ← expandFirst eval words
  let c ← recognise eval (fields.length + words.length + 1) ⟨fields, words, none, false, true, false⟩
  let fields := c.fields ++ (← expandRest eval c.assigns c.words)
  let isLocal := !c.keepsAssignments
  let messages := (← get).descriptors.lookup 2
  let call : Sh Unit := do
    let aims ← aimAll (substitute eval) redirections
    let body : Sh Unit := do
      if ← redirectSafely (substitute eval) aims then
        let assigned ← assignAll eval isLocal (c.isExec && fields.length > 1) assignments
        trace eval messages (assigned ++ fields)
        invoke eval launch tested c fields
      else
        setStatus 2
        if c.special = some true then throw .failed
    if c.isExec then body else keepingDescriptors body
  if isLocal then Builtin.withLocals call else call

end

end Snippetry.Shell
