import Snippetry.Process.Search
import Snippetry.Shell.Parse
import Snippetry.Text.Integer

/-! # The state of the shell -/
namespace Snippetry.Shell

structure Variable where
  name : Text
  /-- A variable may be marked and have no value. -/
  value : Option Text
  exported : Bool
  /-- Whether it keeps its value. -/
  fixed : Bool

/-- What can be switched on and off. -/
inductive Setting
  | errexit | noglob | ignoreeof | interactive | monitor | noexec | stdin | xtrace | verbose | vi
  | emacs | noclobber | allexport | notify | nounset | privileged | nolog | debug
deriving DecidableEq, Repr

namespace Setting

/-- The settings with their names, and their letters if they have one. -/
def all : List (Setting × Text × Option Char) :=
  [(errexit, "errexit", some 'e'), (noglob, "noglob", some 'f'), (ignoreeof, "ignoreeof", some 'I'),
   (interactive, "interactive", some 'i'), (monitor, "monitor", some 'm'),
   (noexec, "noexec", some 'n'), (stdin, "stdin", some 's'), (xtrace, "xtrace", some 'x'),
   (verbose, "verbose", some 'v'), (vi, "vi", some 'V'), (emacs, "emacs", some 'E'),
   (noclobber, "noclobber", some 'C'), (allexport, "allexport", some 'a'),
   (notify, "notify", some 'b'), (nounset, "nounset", some 'u'),
   (privileged, "privileged", some 'p'), (nolog, "nolog", none), (debug, "debug", none)]

def ofLetter? (c : Char) : Option Setting :=
  (all.find? fun (_, _, letter) => letter = some c).map Prod.fst

def ofName? (t : Text) : Option Setting :=
  (all.find? fun (_, name, _) => name = t).map Prod.fst

end Setting

structure Function where
  line : Nat
  body : Command

structure BackgroundJob where
  number : Nat
  /-- When it ends. -/
  stop : Nat
  status : Nat
  /-- The signal that ended it. -/
  signal : Option Nat
  /-- Whether this shell started it, and not one that this is a part of. -/
  isOwn : Bool
  /-- Whether its end was noticed. -/
  noticed : Bool

/-- Where a program was found before. -/
structure Finding where
  name : Text
  path : Text
  /-- Whether it is to be looked for once more. -/
  stale : Bool

structure State extends Process where
  /-- The name it was called by. -/
  name : Text
  /-- The number of the first shell. -/
  mainProcess : Nat
  bindings : List Variable
  functions : List (Text × Function)
  aliases : List (Text × Text)
  arguments : List Text
  settings : List Setting
  found : List Finding
  status : Nat
  /-- How the last command substitution of a command ended. -/
  substituted : Nat
  /-- How many loops are around the current command. -/
  loops : Nat
  /-- What is done when a signal arrives, or at the end. -/
  traps : List (Nat × Text)
  /-- Signals that arrived and whose actions are still to be carried out. -/
  pending : List Nat
  /-- What the status will be again after the action that is being carried out for a signal. -/
  interrupted : Option Nat
  line : Nat
  /-- The builtin that speaks in messages. -/
  speaker : Option Text
  jobs : List BackgroundJob
  /-- The last process in the background. -/
  lastJob : Option Nat
  /-- What local variables were before, for each of the commands that have some, and the settings. -/
  locals : List (List (Text × Option Variable) × Option (List Setting))
  /-- The argument in which the next option is looked for, counted from 1. -/
  optionIndex : Nat
  /-- The place in that argument. -/
  optionPlace : Option Nat
  /-- The texts of here-documents. -/
  documents : List (Nat × Word)
  documentCount : Nat
  /-- Whether a trace is being written. -/
  tracing : Bool

/-- Why the rest of a command is not carried out. -/
inductive Flow
  | leaveLoops (count : Nat)
  | nextRound (count : Nat)
  /-- With a status that was asked for. -/
  | leaveFunction (withStatus : Bool)
  /-- After an error. -/
  | failed
  | leaveShell
  | killed (signal : Nat)

abbrev Sh := ExceptT Flow (StateM State)

def perform {α : Type} (act : Act α) : Sh α := fun sh =>
  match act sh.toProcess with
  | (.ok a, process) => (.ok a, { sh with toProcess := process })
  | (.error signal, process) => (.error (.killed signal), { sh with toProcess := process })

def write (descriptor : Nat) (t : Text) : Sh Bool := perform (Process.write descriptor t)

namespace State

def has (sh : State) (s : Setting) : Bool := sh.settings.contains s

def switch (sh : State) (s : Setting) (on : Bool) : State :=
  let others := sh.settings.filter (· ≠ s)
  { sh with settings := if on then s :: others else others }

def letters (sh : State) : Text :=
  Setting.all.reverse.filterMap fun (s, _, letter) => if sh.has s then letter else none

def named? (sh : State) (name : Text) : Option Variable :=
  sh.bindings.find? fun v => v.name = name

def value? (sh : State) (name : Text) : Option Text := (sh.named? name).bind Variable.value

def putVariable (v : Variable) : List Variable → List Variable
  | [] => [v]
  | w :: vs => if w.name = v.name then v :: vs else w :: putVariable v vs

def setVariable (sh : State) (v : Variable) : State :=
  { sh with bindings := putVariable v sh.bindings }

/-- Variables that keep their marks when they lose their values. -/
def isStanding (sh : State) (name : Text) : Bool :=
  (["IFS", "MAIL", "MAILPATH", "PATH", "PS1", "PS2", "PS4", "OPTIND", "TERM", "HISTSIZE"].map
    String.toList).contains name || sh.locals.any fun frame => (frame.1.map Prod.fst).contains name

def dropVariable (sh : State) (name : Text) : State :=
  let sh := if name = ("PATH" : Text) then { sh with found := [] } else sh
  if sh.isStanding name then
    { sh with bindings := sh.bindings.map fun v =>
        if v.name = name then { v with value := none } else v }
  else { sh with bindings := sh.bindings.filter fun v => v.name ≠ name }

/-- Give a variable a value; its marks stay. -/
def assign (sh : State) (name value : Text) : State :=
  let old := (sh.named? name).getD ⟨name, none, false, false⟩
  let sh := sh.setVariable
    { old with value := some value, exported := old.exported || sh.has .allexport }
  if name = ("OPTIND" : Text) then
    { sh with optionIndex := max 1 ((Text.toNat? value).getD 1), optionPlace := none }
  else if name = ("PATH" : Text) then { sh with found := [] }
  else sh

/-- The place of a name in a table of chains. -/
def chain (size : Nat) (name : Text) : Nat :=
  match name with
  | [] => 0
  | c :: _ => (name.foldl (fun n c => n + c.toNat) (16 * c.toNat)) % size

/-- In the order of their chains. -/
def inChains {α : Type} (size : Nat) (name : α → Text) (entries : List α) : List α :=
  (List.range size).flatMap fun n => entries.filter fun e => chain size (name e) = n

def exports (sh : State) : List (Text × Text) :=
  (inChains 39 Variable.name sh.bindings).filterMap fun v =>
    if v.exported then v.value.map (v.name, ·) else none

end State

def setStatus (n : Nat) : Sh Unit := modify fun sh => { sh with status := n }

/-- A message begins with the name of the shell, the line, and the builtin that speaks. -/
def complain (t : Text) : Sh Unit := do
  let sh ← get
  let speaker : Text := match sh.speaker with
    | some speaker => speaker ++ ": "
    | none => []
  let _ ← write 2 (sh.name ++ ": " ++ Text.ofNat sh.line ++ ": " ++ speaker ++ t ++ "\n")

/-- An error; unless the command is an ordinary builtin the shell does not go on. -/
def giveUp {α : Type} (t : Text) : Sh α := do
  complain t
  setStatus 2
  throw .failed

/-- A whole number that a builtin is given. -/
def number (t : Text) : Sh Nat :=
  match Integer.whole? (some 10) t with
  | some n => if t ≠ [] && 0 ≤ n && n ≤ 2147483647 then pure n.toNat else giveUp ("Illegal number: " ++ t)
  | none => giveUp ("Illegal number: " ++ t)

/-- Give a variable a value, unless it is fixed. -/
def assignVariable (name value : Text) : Sh Unit := do
  match (← get).named? name with
  | some v => if v.fixed then giveUp (name ++ ": is read only")
  | none => pure ()
  if name = ("OPTIND" : Text) then
    let _ ← number value
  modify fun sh => sh.assign name value

/-- The same for a name that may make no sense. -/
def storeVariable (name value : Text) : Sh Unit :=
  if isName name then assignVariable name value else giveUp (name ++ ": bad variable name")

/-- Take the value from a variable, unless it is fixed. -/
def unsetVariable (name : Text) : Sh Unit := do
  if !isName name then giveUp (name ++ ": bad variable name")
  match (← get).named? name with
  | some v => if v.fixed then giveUp (name ++ ": is read only")
  | none => pure ()
  if name = ("OPTIND" : Text) then giveUp "Illegal number: "
  modify fun sh => sh.dropVariable name

/-- Quote a text so that the shell reads it as one word. -/
def quoted : Nat → Text → Text
  | 0, _ => []
  | fuel + 1, t =>
    let plain := t.takeWhile (· ≠ '\'')
    let rest := t.drop plain.length
    let marks := rest.takeWhile (· = '\'')
    let after := rest.drop marks.length
    let shown : Text := if marks = [] then [] else '"' :: marks ++ ['"']
    '\'' :: plain ++ ['\''] ++ shown ++ if after = [] then [] else quoted fuel after

/-- A text between single quotes; those in it stand between double quotes. -/
def singleQuote (t : Text) : Text := quoted (t.length + 1) t

/-- Carry out, and then put back part of the earlier state, however it ends. -/
def restoring {α : Type} (putBack : State → State → State) (body : Sh α) : Sh α := do
  let old ← get
  try
    let a ← body
    modify (putBack old)
    pure a
  catch flow =>
    modify (putBack old)
    throw flow

/-- How a command ends; `none` if nothing cuts it short. -/
def attempt (body : Sh Unit) : Sh (Option Flow) := do
  try
    body
    pure none
  catch flow => pure (some flow)

/-! ## Options of builtins -/

/-- The options at the start of arguments, and what follows them. A colon after a letter of `known`
says that it takes a value. -/
def readOptions (known : Text) : Nat → List Text → Except Text (List (Char × Text) × List Text)
  | 0, arguments => .ok ([], arguments)
  | fuel + 1, arguments =>
    match arguments with
    | ['-', '-'] :: rest => .ok ([], rest)
    | ('-' :: c :: letters) :: rest => do
      if c = ':' ∨ c ∉ known then .error ("Illegal option -" ++ [c])
      else if ((known.dropWhile (· ≠ c)).drop 1).head? = some ':' then
        if letters ≠ [] then
          let (options, rest) ← readOptions known fuel rest
          .ok ((c, letters) :: options, rest)
        else match rest with
          | value :: rest =>
            let (options, rest) ← readOptions known fuel rest
            .ok ((c, value) :: options, rest)
          | [] => .error ("No arg for -" ++ [c] ++ " option")
      else
        let next := if letters = [] then rest else ('-' :: letters) :: rest
        let (options, rest) ← readOptions known fuel next
        .ok ((c, []) :: options, rest)
    | _ => .ok ([], arguments)

def options (known : Text) (arguments : List Text) : Sh (List (Char × Text) × List Text) :=
  let most := arguments.foldl (fun n a => n + a.length + 1) 1
  match readOptions known most arguments with
  | .ok found => pure found
  | .error message => giveUp message

end Snippetry.Shell
