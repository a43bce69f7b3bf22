import Snippetry.Awk.Evaluate
import Snippetry.Awk.Parse

/-! # Programs from their start to their end -/
namespace Snippetry.Awk

/-- How deep expressions and statements may lie in each other, calls of functions included. -/
def deepest : Nat := 20000

section

variable (launch : Process.Launch)

/-! ## Rules -/

def act (rule : Rule) : Action Unit := do
  modify fun s => { s with locals := [] }
  match rule.action with
  | some body => execAll launch deepest body
  | none => exec launch deepest (.print [] none)

def isTrue (e : Expr) : Action Bool := do
  modify fun s => { s with locals := [] }
  pure (← eval launch deepest e).isTrue

def onRecord (rule : Rule) : Action Unit := do
  match rule.trigger with
  | .begin | .finish => pure ()
  | .always => act launch rule
  | .when e => if ← isTrue launch e then act launch rule
  | .range number first last =>
    let begun := (← get).ranges.contains number
    if ← if begun then pure true else isTrue launch first then
      let others := fun s : State => s.ranges.filter (· ≠ number)
      if ← isTrue launch last then modify fun s => { s with ranges := others s }
      else modify fun s => { s with ranges := number :: others s }
      act launch rule

def mostRecords : Nat := 100000000

/-- Carry out the rules for each record of the main input. -/
def eachRecord (rules : List Rule) : Nat → State → Except Stop Unit × State
  | 0, s => (.ok (), s)
  | fuel + 1, s =>
    match (mainRecord mostFiles : Action (Option Text)) s with
    | (.error stop, s) => (.error stop, s)
    | (.ok none, s) => (.ok (), s)
    | (.ok (some t), s) =>
      match (do setRecord (.input t); rules.forM (onRecord launch) : Action Unit) s with
      | (.ok (), s) | (.error .nextRecord, s) => eachRecord rules fuel s
      | (.error .nextFile, s) => eachRecord rules fuel { s with mainInput := none }
      | (.error stop, s) => (.error stop, s)

def Trigger.isBegin : Trigger → Bool
  | begin => true
  | _ => false

def Trigger.isFinish : Trigger → Bool
  | finish => true
  | _ => false

/-- Carry out, and tell whether the program was left. -/
def untilExit (body : Action Unit) : Action Bool := fun s =>
  match body s with
  | (.error .exit, s) => (.ok true, s)
  | (.error (.failed), s) => (.error .failed, s)
  | (.error (.killed signal), s) => (.error (.killed signal), s)
  | (_, s) => (.ok false, s)

/-- Carry out a program. Rules for the end are carried out even if the program was left before. -/
def runRules : Action Unit := do
  let rules := (← get).program.rules
  let others := rules.filter fun r => !r.trigger.isBegin
  let left ← untilExit ((rules.filter fun r => r.trigger.isBegin).forM (act launch))
  if !others.isEmpty then
    if !left then
      let _ ← untilExit (eachRecord launch others mostRecords)
    let _ ← untilExit ((others.filter fun r => r.trigger.isFinish).forM (act launch))

/-! ## Arguments -/

structure Request where
  separator : Option Text
  /-- Variables that are given values. -/
  given : List (Text × Text)
  /-- Files that the program is read from. -/
  files : List Text
  rest : List Text

/-- Take the options from the arguments, or refuse them. -/
def requestOf : Nat → Request → Except Text Request
  | 0, r => .ok r
  | fuel + 1, r =>
    let valued (letter : Char) (value : Text) (rest : List Text)
        (use : Text → Except Text Request) : Except Text Request := do
      match value, rest with
      | [], [] => .error ("option -" ++ [letter] ++ " lacks argument")
      | [], value :: rest => do
        let r ← use value
        requestOf fuel { r with rest }
      | value, _ => do
        let r ← use value
        requestOf fuel { r with rest }
    match r.rest with
    | ['-', '-'] :: rest => .ok { r with rest }
    | ('-' :: 'F' :: value) :: rest =>
      valued 'F' value rest fun value => .ok { r with separator := some value }
    | ('-' :: 'f' :: value) :: rest =>
      valued 'f' value rest fun value => .ok { r with files := r.files ++ [value] }
    | ('-' :: 'v' :: value) :: rest =>
      valued 'v' value rest fun value =>
        match assignment? value with
        | some pair => .ok { r with given := r.given ++ [pair] }
        | none => .error ("improper assignment: -v " ++ value)
    | ('-' :: letter :: letters) :: _ => .error ("not an option: -" ++ letter :: letters)
    | _ => .ok r

/-! ## The start -/

def tableOf (entries : List (Key × Text)) : Table Value :=
  entries.foldl (fun t (key, value) => (t.access key (some (.input value))).2) .empty

def argumentTable (arguments : List Text) : Table Value :=
  tableOf (arguments.zipIdx.map fun (t, n) => (⟨Text.ofNat n, some (n : Nat)⟩, t))

def environmentTable (environment : List (Text × Text)) : Table Value :=
  tableOf (environment.map fun (name, value) => (⟨name, none⟩, value))

def firstVariables (arguments : Nat) : List (Text × Value) :=
  [("CONVFMT", .text "%.6g"), ("OFS", .text " "), ("ORS", .text "\n"), ("FS", .text " "),
   ("NR", .number 0), ("FNR", .number 0), ("RS", .text "\n"), ("SUBSEP", .text "\x1c"),
   ("OFMT", .text "%.6g"), ("FILENAME", .text []), ("ARGC", .number (Float.ofNat arguments))]

def State.start (name : Text) (program : Program) (arguments : List Text) (p : Process) : State :=
  let names := program.tables ++ givenTables.filter fun name => !program.tables.contains name
  let arguments := name :: arguments
  let tables := names.map fun name =>
    if name = ("ARGV" : Text) then argumentTable arguments
    else if name = ("ENVIRON" : Text) then environmentTable p.environment
    else .empty
  { p with
    name, program, bindings := firstVariables arguments.length, tableNumbers := names.zipIdx
    tables := tables.toArray, locals := [], record := .input [], fields := #[], ranges := []
    pending := [], inputs := [], outputs := [], mainInput := none, argument := 1, hasFile := false
    seed := .number 0, random := Random.seeded 0, status := 0 }

def programText : List Text → Act (Except Text Text)
  | [] => pure (.ok [])
  | path :: paths => do
    let p ← get
    let found : Except FileError Text ← if path = ['-'] then do
        pure (.ok ((← Process.readAll 0).getD []))
      else pure ((p.files.readBytes (decodePath path)).map textOf)
    match found with
    | .error e => pure (.error ("cannot open \"" ++ path ++ "\" (" ++ e.reason ++ ")"))
    | .ok t => do
      match ← programText paths with
      | .ok more => pure (.ok (if paths.isEmpty then t else t ++ '\n' :: more))
      | .error e => pure (.error e)

def refuse (complaints : List Text) : Act Nat := do
  let _ ← Process.write 2 (complaints.flatMap fun t => t ++ ['\n'])
  pure 2

def runProgram (name : Text) (program : Program) (request : Request) : Act Nat := fun p =>
  let body : Action Unit := do
    request.separator.forM fun t => assignGiven "FS" t
    request.given.forM fun (name, value) => assignGiven name value
    runRules launch
  let (result, s) := body (State.start name program request.rest p)
  match result with
  | .error (.killed signal) => (.error signal, s.toProcess)
  | _ =>
    match (closeAll launch : Action Unit) s with
    | (.error (.killed signal), s) => (.error signal, s.toProcess)
    | (_, s) => (.ok (s.status % 256), s.toProcess)

def program (name : Text) (arguments : List Text) : Act Nat := do
  match requestOf (arguments.length + 1) ⟨none, [], [], arguments⟩ with
  | .error e => refuse [name ++ ": " ++ e]
  | .ok request =>
    match request.files, request.rest with
    | [], [] =>
      let _ ← Process.write 1 ("Usage: " ++ name ++ " [Options] [Program] [file ...]\n")
      pure 0
    | [], t :: rest =>
      match programOf? name none t with
      | .error complaints => refuse complaints
      | .ok program => runProgram launch name program { request with rest }
    | files, _ =>
      match ← programText files with
      | .error e => refuse [name ++ ": " ++ e]
      | .ok t =>
        match programOf? name files.getLast? t with
        | .error complaints => refuse complaints
        | .ok program => runProgram launch name program request

end

end Snippetry.Awk
