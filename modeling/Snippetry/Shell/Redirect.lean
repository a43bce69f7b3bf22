import Snippetry.Shell.Expansion

/-! # Redirections -/
namespace Snippetry.Shell

/-- A redirection whose words are expanded. -/
inductive Aim
  | file (access : Process.Access) (clobbers : Bool) (path : Text)
  | copy (source : Option Nat)
  | document (w : Word)

def openFault (access : Process.Access) (path : Text) (e : FileError) : Text :=
  let (verb, absence) : Text × Text :=
    if access = .read then ("open", "No such file") else ("create", "Directory nonexistent")
  "cannot " ++ verb ++ " " ++ path ++ ": "
    ++ if Process.isAbsence e then absence else e.reason

section

variable (run : Command → Sh Text)

def aimAt : Target → Sh Aim
  | .read path => return .file .read true (← Expansion.expandText run path)
  | .write path => return .file .write false (← Expansion.expandText run path)
  | .clobber path => return .file .write true (← Expansion.expandText run path)
  | .append path => return .file .append true (← Expansion.expandText run path)
  | .readWrite path => return .file .readWrite true (← Expansion.expandText run path)
  | .copy source => pure (.copy source)
  | .copyNamed source => do
    match ← Expansion.expandText run source with
    | ['-'] => pure (.copy none)
    | [c] =>
      if c.isDigit then pure (.copy (some (c.toNat - '0'.toNat)))
      else giveUp "Syntax error: Bad fd number"
    | _ => giveUp "Syntax error: Bad fd number"
  | .document number => return .document (((← get).documents.lookup number).getD [])

def aimAll : List Redirection → Sh (List (Nat × Aim))
  | [] => pure []
  | .mk descriptor target :: rest => do
    let aim ← aimAt run target
    pure ((descriptor, aim) :: (← aimAll rest))

def redirect (descriptor : Nat) : Aim → Sh Unit
  | .file access clobbers path => do
    let sh ← get
    let isThere := sh.files.isAt FileNode.isFile (decodePath path)
    if access = .write && !clobbers && isThere && sh.has .noclobber then
      giveUp ("cannot create " ++ path ++ ": File exists")
    match sh.toProcess.open? access (decodePath path) with
    | .ok (number, process) => set { sh with toProcess := process.connect descriptor number }
    | .error e => giveUp (openFault access path e)
  | .copy none => modify fun sh => { sh with toProcess := sh.disconnect descriptor }
  | .copy (some source) => do
    let sh ← get
    if source ≠ descriptor then
      match sh.descriptors.lookup source with
      | some number => set { sh with toProcess := sh.connect descriptor number }
      | none => giveUp (Text.ofNat source ++ ": Bad file descriptor")
  | .document w => do
    let t ← Expansion.expandDocument run w
    modify fun sh => { sh with toProcess := sh.attach descriptor (.pipe [(sh.clock, t)] [] 0) }

def redirectAll : List (Nat × Aim) → Sh Unit
  | [] => pure ()
  | (descriptor, aim) :: rest => do
    redirect run descriptor aim
    redirectAll rest

def redirectSafely (aims : List (Nat × Aim)) : Sh Bool := do
  match ← attempt (redirectAll run aims) with
  | none => pure true
  | some .failed => pure false
  | some flow => throw flow

end

/-- Carry out something after which the descriptors are what they were. -/
def keepingDescriptors {α : Type} (body : Sh α) : Sh α :=
  restoring (fun old new => { new with descriptors := old.descriptors }) body

end Snippetry.Shell
