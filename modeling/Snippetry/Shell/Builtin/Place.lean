import Snippetry.Shell.Builtin.Output
import Snippetry.Shell.Mask

/-! # Builtins about the surroundings: `cd`, `pwd` and `umask` -/
namespace Snippetry.Shell.Builtin

def exportVariable (name value : Text) : Sh Unit := do
  assignVariable name value
  modify fun sh => { sh with bindings := sh.bindings.map fun v =>
    if v.name = name then { v with exported := true } else v }

def workingDirectory (sh : State) : Text := encodePath (Files.pathOf sh.files.here)

def enter (path : Text) : Sh Bool := do
  let sh ← get
  let names := sh.files.names (decodePath path)
  if sh.files.isAt FileNode.isDirectory (Files.pathOf names) then
    let old := workingDirectory sh
    let found := sh.found.map fun f => { f with stale := true }
    set { sh with found, files := { sh.files with here := names } }
    exportVariable "OLDPWD" old
    exportVariable "PWD" (workingDirectory (← get))
    pure true
  else pure false

def isSearched (path : Text) : Bool :=
  match Text.splitOn '/' path with
  | [] :: _ :: _ => false
  | first :: _ => first ≠ ['.'] && first ≠ ['.', '.']
  | [] => true

def cd (arguments : List Text) : Sh Nat := do
  let (_, arguments) ← options "LP" arguments
  let sh ← get
  let goesBack := arguments.head? = some ['-']
  let target : Text := match arguments with
    | [] => (sh.value? "HOME").getD []
    | path :: _ => if goesBack then (sh.value? "OLDPWD").getD [] else path
  let path := if target = [] then ['.'] else target
  let directories := match sh.value? "CDPATH" with
    | some search => if isSearched target then Text.splitOn ':' search else []
    | none => []
  let found := directories.find? fun d =>
    sh.files.isAt FileNode.isDirectory (decodePath (if d = [] then path else d ++ '/' :: path))
  let (path, shows) : Text × Bool := match found with
    | some [] => (path, goesBack)
    | some d => (d ++ '/' :: path, true)
    | none => (path, goesBack)
  if ← enter path then
    if shows then answer (workingDirectory (← get) ++ ['\n']) 0 else pure 0
  else giveUp ("can't cd to " ++ target)

def pwd (arguments : List Text) : Sh Nat := do
  let _ ← options "LP" arguments
  answer (workingDirectory (← get) ++ ['\n']) 0

def umask (arguments : List Text) : Sh Nat := do
  let (chosen, arguments) ← options "S" arguments
  let sh ← get
  match arguments with
  | [] =>
    answer ((if chosen = [] then Mask.toDigits sh.mask else Mask.toLetters sh.mask) ++ ['\n']) 0
  | t :: _ => do
    let mask ←
      if t.head?.any Char.isDigit then
        match Mask.ofDigits? t with
        | some mask => pure mask
        | none => giveUp ("Illegal number: " ++ t)
      else match Mask.ofLetters? sh.mask t with
        | some mask => pure mask
        | none => giveUp ("Illegal mode: " ++ t)
    set { sh with mask }
    pure 0

end Snippetry.Shell.Builtin
