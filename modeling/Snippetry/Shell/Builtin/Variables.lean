import Snippetry.Shell.Builtin.Output
import Snippetry.Shell.Field

/-! # Builtins about variables, arguments and settings -/
namespace Snippetry.Shell.Builtin

/-! ## Variables -/

def insertVariable (v : Variable) : List Variable → List Variable
  | [] => [v]
  | w :: ws => if v.name < w.name then v :: w :: ws else w :: insertVariable v ws

/-- Variables in the order of their names, as commands that set them. -/
def listing (command : Text) (vs : List Variable) : Text :=
  (vs.foldl (fun sorted v => insertVariable v sorted) []).flatMap fun v =>
    command ++ v.name ++ (match v.value with
      | some value => '=' :: singleQuote value
      | none => []) ++ ['\n']

/-- Mark variables, which may get values as well. -/
def mark (command : Text) (isMarked : Variable → Bool) (give : Variable → Variable)
    (arguments : List Text) : Sh Nat := do
  let (chosen, arguments) ← options "p" arguments
  if arguments = [] || chosen ≠ [] then
    answer (listing (command ++ [' ']) ((← get).bindings.filter isMarked)) 0
  else
    arguments.forM fun argument => do
      let name := argument.takeWhile (· ≠ '=')
      if name.length < argument.length then storeVariable name (argument.drop (name.length + 1))
      else if ((← get).named? name).isNone then
        if !isName name then giveUp (name ++ ": bad variable name")
        modify fun sh => sh.setVariable ⟨name, none, false, false⟩
      modify fun sh => { sh with bindings := sh.bindings.map fun v =>
        if v.name = name then give v else v }
    pure 0

def exportAll (arguments : List Text) : Sh Nat :=
  mark "export" Variable.exported (fun v => { v with exported := true }) arguments

def readonlyAll (arguments : List Text) : Sh Nat :=
  mark "readonly" Variable.fixed (fun v => { v with fixed := true }) arguments

/-- Remember what a variable was for when the command at work ends. -/
def makeLocal (exported : Bool) (argument : Text) : Sh Unit := do
  let sh ← get
  match sh.locals with
  | [] => giveUp "not in a function"
  | (bindings, settings) :: frames =>
    if argument = ['-'] then
      set { sh with locals := (bindings, settings <|> some sh.settings) :: frames }
    else
      let name := argument.takeWhile (· ≠ '=')
      let old := sh.named? name
      let given := name.length < argument.length
      if !given && !isName name then giveUp (name ++ ": bad variable name")
      if given && old.any Variable.fixed then giveUp (name ++ ": is read only")
      set { sh with locals := ((name, old) :: bindings, settings) :: frames }
      if given then assignVariable name (argument.drop (name.length + 1))
      else if old.isNone then modify fun sh => sh.setVariable ⟨name, none, false, false⟩
      if exported then
        modify fun sh => { sh with bindings := sh.bindings.map fun v =>
          if v.name = name then { v with exported := true } else v }

def localAll (arguments : List Text) : Sh Nat := do
  if (← get).locals = [] then giveUp "not in a function"
  arguments.forM (makeLocal false)
  pure 0

def restoreVariable (sh : State) (name : Text) (old : Option Variable) : State :=
  match old with
  | none => { sh with bindings := sh.bindings.filter fun v => v.name ≠ name }
  | some v =>
    let sh := if name = ("OPTIND" : Text) then sh.assign name (v.value.getD ['1']) else sh
    let sh := if name = ("PATH" : Text) then { sh with found := [] } else sh
    sh.setVariable v

/-- Carry out a command that may have local variables. -/
def withLocals {α : Type} (body : Sh α) : Sh α :=
  restoring (fun _ new => match new.locals with
    | [] => new
    | (bindings, settings) :: frames =>
      let new := { new with locals := frames, settings := settings.getD new.settings }
      bindings.foldl (fun sh (name, old) => restoreVariable sh name old) new) do
    modify fun sh => { sh with locals := ([], none) :: sh.locals }
    body

def unsetAll (arguments : List Text) : Sh Nat := do
  let (chosen, names) ← options "vf" arguments
  let kind := (chosen.getLast?.map Prod.fst).getD 'v'
  names.forM fun name =>
    if kind = 'f' then modify fun sh => { sh with functions := dropKey name sh.functions }
    else unsetVariable name
  pure 0

/-! ## Arguments and settings -/

def setArguments (arguments : List Text) : Sh Unit :=
  modify fun sh => { sh with arguments, optionIndex := 1, optionPlace := none }

def settingsListing (sh : State) (asCommands : Bool) : Text :=
  let lines := Setting.all.map fun (s, name, _) =>
    if asCommands then
      let sign : Text := if sh.has s then "set -o " else "set +o "
      sign ++ name ++ ['\n']
    else Text.padRight 16 name ++ (if sh.has s then "on\n" else "off\n" : Text)
  (if asCommands then [] else "Current option settings\n") ++ lines.flatten

/-- Switch settings by their letters. What follows is needed for the names of settings. -/
def switchLetters (on : Bool) : Text → List Text → Sh (List Text)
  | [], rest => pure rest
  | 'o' :: letters, rest => do
    match rest with
    | [] =>
      let _ ← answer (settingsListing (← get) !on) 0
    | name :: _ =>
      match Setting.ofName? name with
      | some s => modify fun sh => sh.switch s on
      | none => giveUp ("Illegal option -o " ++ name)
    switchLetters on letters rest.tail
  | c :: letters, rest => do
    match Setting.ofLetter? c with
    | some s => modify fun sh => sh.switch s on
    | none => giveUp ("Illegal option -" ++ [c])
    switchLetters on letters rest

def switchSettings : Nat → List Text → Sh (List Text)
  | 0, arguments => pure arguments
  | fuel + 1, arguments => do
    match arguments with
    | ['-'] :: rest =>
      modify fun sh => (sh.switch .xtrace false).switch .verbose false
      pure rest
    | ['-', '-'] :: rest =>
      if rest = [] then setArguments []
      pure rest
    | ('-' :: letters) :: rest => switchSettings fuel (← switchLetters true letters rest)
    | ('+' :: letters) :: rest => switchSettings fuel (← switchLetters false letters rest)
    | _ => pure arguments

/-- Without a terminal there is no control over jobs. -/
def settle : Sh Unit := do
  let sh ← get
  if sh.has .monitor && !sh.onTerminal then
    complain "can't access tty; job control turned off"
    modify fun sh => sh.switch .monitor false

def setAll (arguments : List Text) : Sh Nat := do
  if arguments = [] then
    answer (listing [] ((← get).bindings.filter fun v => v.value.isSome)) 0
  else
    let rest ← switchSettings (arguments.length + 1) arguments
    settle
    if rest ≠ [] then setArguments rest
    pure 0

def shift (arguments : List Text) : Sh Nat := do
  let n ← match arguments with
    | [] => pure 1
    | t :: _ => number t
  let sh ← get
  if sh.arguments.length < n then giveUp "can't shift that many"
  setArguments (sh.arguments.drop n)
  pure 0

/-! ## Options of scripts -/

/-- Whether a letter is among known options, and whether it takes a value. -/
def knownOption : Text → Char → Option Bool
  | [], _ => none
  | k :: known, c =>
    if k = c then some (known.head? = some ':')
    else match known with
      | ':' :: rest => knownOption rest c
      | rest => knownOption rest c

def getopts (arguments : List Text) : Sh Nat := do
  match arguments with
  | known :: name :: given => do
    let sh ← get
    let words := if given = [] then sh.arguments else given
    let limit := if given = [] then sh.arguments.length + 1 else given.length + 1
    let (index, place) : Nat × Option Nat :=
      if sh.optionIndex > limit then (1, none) else (sh.optionIndex, sh.optionPlace)
    let current : Text := match place with
      | some n => if index ≤ 1 then [] else ((words[index - 2]?).getD []).drop n
      | none => []
    let next : Option (Text × Nat) :=
      if current ≠ [] then some (current, index)
      else match words[index - 1]? with
        | some ('-' :: c :: t) => if c = '-' && t = [] then none else some (c :: t, index + 1)
        | _ => none
    match next with
    | some (c :: rest, index) =>
      let silent := known.head? = some ':'
      let inWord := ((words[index - 2]?).getD []).length - rest.length
      match knownOption known c with
      | none =>
        if silent then assignVariable "OPTARG" [c]
        else
          let _ ← write 2 ("Illegal option -" ++ [c] ++ "\n")
          unsetVariable "OPTARG"
        finish name '?' index (some inWord) 0
      | some false =>
        assignVariable "OPTARG" []
        finish name c index (some inWord) 0
      | some true =>
        if rest ≠ [] then
          assignVariable "OPTARG" rest
          finish name c index none 0
        else match words[index - 1]? with
          | some value =>
            assignVariable "OPTARG" value
            finish name c (index + 1) none 0
          | none =>
            if silent then
              assignVariable "OPTARG" [c]
              finish name ':' index none 0
            else
              let _ ← write 2 ("No arg for -" ++ [c] ++ " option\n")
              unsetVariable "OPTARG"
              finish name '?' index none 0
    | _ =>
      let index := if words[index - 1]? = some ['-', '-'] then index + 1 else index
      finish name '?' index none 1
  | _ => giveUp "Usage: getopts optstring var [arg...]"
where
  finish (name : Text) (letter : Char) (index : Nat) (place : Option Nat) (status : Nat) : Sh Nat := do
    let sh ← get
    let old := (sh.named? "OPTIND").getD ⟨"OPTIND", none, false, false⟩
    set (sh.setVariable { old with value := some (Text.ofNat index) })
    storeVariable name [letter]
    modify fun sh => { sh with optionIndex := index, optionPlace := place }
    pure status

/-! ## Reading lines -/

/-- How long a line is, with its end and the lines that continue it; `none` if it does not end. -/
def lineLength (raw : Bool) : Nat → Text → Option Nat
  | _, [] => none
  | n, '\n' :: _ => some (n + 1)
  | n, c :: t =>
    if c = '\\' && !raw then match t with
      | _ :: rest => lineLength raw (n + 2) rest
      | [] => none
    else lineLength raw (n + 1) t

/-- The pieces of a line: what a backslash protects is not cut. -/
def linePieces (raw : Bool) : Text → Text → List Piece
  | [], done => [⟨.atSeparators, Glyph.ofText false done.reverse⟩]
  | c :: t, done =>
    if c = '\n' then [⟨.atSeparators, Glyph.ofText false done.reverse⟩]
    else if c = '\x00' then linePieces raw t done
    else if c = '\\' && !raw then
      match t with
      | d :: rest =>
        let kept : List Piece := if d = '\n' then [] else [⟨.nowhere, Glyph.ofText true [d]⟩]
        ⟨.atSeparators, Glyph.ofText false done.reverse⟩ :: kept ++ linePieces raw rest []
      | [] => [⟨.atSeparators, Glyph.ofText false done.reverse⟩]
    else linePieces raw t (c :: done)

def read (arguments : List Text) : Sh Nat := do
  let (chosen, names) ← options "p:r" arguments
  let raw := chosen.any fun (c, _) => c = 'r'
  match (chosen.filter fun (c, _) => c = 'p').getLast? with
  | some (_, prompt) =>
    if (← get).isTerminal 0 then
      let _ ← write 2 prompt
  | none => pure ()
  if names = [] then giveUp "arg count"
  let line := (← perform (Process.readSome 0 (lineLength raw 0))).getD []
  let ended := (lineLength raw 0 line).isNone
  let separators : Text := ((← get).value? "IFS").getD " \t\n"
  let fields := fieldsOf separators (some names.length) (linePieces raw line [])
  storeAll names (fields.map Glyph.text)
  pure (if ended then 1 else 0)
where
  storeAll : List Text → List Text → Sh Unit
    | [], _ => pure ()
    | name :: names, fields => do
      storeVariable name (fields.headD [])
      storeAll names fields.tail

end Snippetry.Shell.Builtin
