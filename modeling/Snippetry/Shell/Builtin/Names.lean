import Snippetry.Shell.Builtin.Output

/-! # Names of commands: what they stand for, and the builtins that tell -/
namespace Snippetry.Shell

def ordinaryBuiltins : List Text :=
  ["alias", "bg", "cd", "chdir", "command", "echo", "false", "fg", "getopts", "hash", "jobs", "kill",
   "printf", "pwd", "read", "test", "[", "true", "type", "ulimit", "umask", "unalias", "wait"].map
    String.toList

def isSpecial (name : Text) : Bool := specialBuiltins.contains name

def isBuiltin (name : Text) : Bool := isSpecial name || ordinaryBuiltins.contains name

inductive Kind
  | function (f : Function)
  | builtin
  | program (path : Text)

def searchPath (sh : State) : Text := (sh.value? "PATH").getD []

def putFinding (f : Finding) : List Finding → List Finding
  | [] => [f]
  | g :: rest => if g.name = f.name then f :: rest else g :: putFinding f rest

/-- Where the program of a name is. It is remembered for the next time. -/
def findProgram (name : Text) : Sh (Except FileError Text) := do
  let sh ← get
  if '/' ∈ name then pure (.ok name)
  else match sh.found.find? fun f => f.name = name && !f.stale with
    | some f => pure (.ok f.path)
    | none =>
      match Process.program? sh.files (searchPath sh) name with
      | .ok path =>
        if (sh.functions.lookup name).isNone then
          set { sh with found := putFinding ⟨name, path, false⟩ sh.found }
        pure (.ok path)
      | .error e =>
        set { sh with found := sh.found.filter fun f => f.name ≠ name }
        pure (.error e)

/-- What a name stands for. With `standard` programs are searched for in the usual places. -/
def locate (functions standard : Bool) (name : Text) : Sh (Except FileError Kind) := do
  let sh ← get
  if '/' ∈ name then pure (.ok (.program name))
  else match if functions then sh.functions.lookup name else none with
    | some f => pure (.ok (.function f))
    | none =>
      if isBuiltin name then pure (.ok .builtin)
      else if standard then
        pure ((Process.program? sh.files Process.standardSearch name).map .program)
      else do pure ((← findProgram name).map .program)

/-- Why a program is not carried out. -/
def launchFault (name : Text) (e : FileError) : Text :=
  let reason : Text := if Process.isAbsence e then "not found" else e.reason
  name ++ ": " ++ reason

namespace Builtin

def aliasLine (name value : Text) : Text := name ++ '=' :: singleQuote value ++ ['\n']

/-- Tell what a name stands for, briefly or in a sentence. -/
def describe (verbose standard : Bool) (name : Text) : Sh (Text × Nat) := do
  let sh ← get
  let say (t : Text) : Text × Nat := ((if verbose then name ++ t else name) ++ ['\n'], 0)
  let missing : Text × Nat := (if verbose then name ++ ": not found\n" else [], 127)
  if keywords.contains name then pure (say " is a shell keyword")
  else match sh.aliases.lookup name with
    | some value =>
      pure (if verbose then say (" is an alias for " ++ value) else ("alias " ++ aliasLine name value, 0))
    | none =>
      let isTracked := !standard && sh.found.any fun f => f.name = name
      if '/' ∈ name then
        pure (if sh.files.isAt (fun _ => true) (decodePath name) then say (" is " ++ name) else missing)
      else match ← locate true standard name with
        | .ok (.function _) => pure (say " is a shell function")
        | .ok .builtin =>
          pure (say (if isSpecial name then " is a special shell builtin" else " is a shell builtin"))
        | .ok (.program path) =>
          if verbose then
            let link : Text := if isTracked then " is a tracked alias for " else " is "
            pure (say (link ++ path))
          else pure (path ++ ['\n'], 0)
        | .error _ => pure missing

def describeAll : List Text → Sh (Text × Nat)
  | [] => pure ([], 0)
  | name :: names => do
    let (t, status) ← describe true false name
    let (rest, worst) ← describeAll names
    pure (t ++ rest, max status worst)

def type (names : List Text) : Sh Nat := do
  let (t, status) ← describeAll names
  answer t status

/-- What `command` does when it is only to tell about a name. -/
def command (arguments : List Text) : Sh Nat := do
  let (chosen, names) ← options "pvV" arguments
  let has (c : Char) : Bool := chosen.any fun (d, _) => d = c
  match names with
  | [] => pure 0
  | name :: _ =>
    if has 'v' || has 'V' then
      let (t, status) ← describe (has 'V') (has 'p') name
      answer t status
    else pure 0

def hash (arguments : List Text) : Sh Nat := do
  let (chosen, names) ← options "r" arguments
  if chosen ≠ [] then
    modify fun sh => { sh with found := [] }
    pure 0
  else if names = [] then
    let found := State.inChains 31 Finding.name (← get).found
    answer (found.flatMap fun f => f.path ++ (if f.stale then ['*'] else []) ++ ['\n']) 0
  else hashAll names 0
where
  hashAll : List Text → Nat → Sh Nat
    | [], status => pure status
    | name :: names, status => do
      modify fun sh => { sh with found := sh.found.filter fun f => f.name ≠ name }
      match ← locate true false name with
      | .ok _ => hashAll names status
      | .error e =>
        complain (launchFault name e)
        hashAll names 1

/-! ## Aliases -/

def setAlias (arguments : List Text) : Sh Nat := do
  if arguments = [] then
    let aliases := State.inChains 39 Prod.fst (← get).aliases
    answer (aliases.flatMap fun (name, value) => aliasLine name value) 0
  else
    let (t, status) ← defineAll arguments
    answer t status
where
  defineAll : List Text → Sh (Text × Nat)
    | [] => pure ([], 0)
    | argument :: rest => do
      let name := argument.take 1 ++ argument.tail.takeWhile (· ≠ '=')
      if name.length < argument.length then
        modify fun sh => { sh with
          aliases := setKey name (argument.drop (name.length + 1)) sh.aliases }
        defineAll rest
      else match (← get).aliases.lookup argument with
        | some value =>
          let (t, status) ← defineAll rest
          pure (aliasLine argument value ++ t, status)
        | none =>
          let _ ← write 2 ("alias: " ++ argument ++ " not found\n")
          let (t, _) ← defineAll rest
          pure (t, 1)

def unalias (arguments : List Text) : Sh Nat := do
  let (chosen, names) ← options "a" arguments
  if chosen ≠ [] then
    modify fun sh => { sh with aliases := [] }
    pure 0
  else removeAll names 0
where
  removeAll : List Text → Nat → Sh Nat
    | [], status => pure status
    | name :: names, status => do
      if ((← get).aliases.lookup name).isSome then
        modify fun sh => { sh with aliases := dropKey name sh.aliases }
        removeAll names status
      else
        let _ ← write 2 ("unalias: " ++ name ++ " not found\n")
        removeAll names 1

end Builtin
end Snippetry.Shell
