import Snippetry.Awk.Table
import Snippetry.Awk.Value
import Snippetry.Awk.Syntax
import Snippetry.Process.Basic

/-! # The state of a program: variables, tables and fields -/
namespace Snippetry.Awk

/-- What the name of a parameter stands for. -/
inductive Slot
  | value (v : Value)
  /-- The number of a table. -/
  | table (number : Nat)

/-- Something to read records from. -/
structure Input where
  descriptor : Nat
  /-- What was read and is no record yet. -/
  buffer : Text
  /-- Whether nothing more is to come. -/
  isDone : Bool

/-- A file or a command that was opened for reading. -/
structure InputStream where
  name : Text
  input : Input
  /-- How a command ended, and when. -/
  ended : Option (Nat × Nat)

/-- A file or a command that is written to. -/
structure OutputStream where
  name : Text
  number : Nat
  isCommand : Bool
  /-- When it was opened. -/
  start : Nat
  /-- What is still to be written, the latest first. -/
  pending : List Text

structure State extends Process where
  /-- The name it was called by. -/
  name : Text
  program : Program
  bindings : List (Text × Value)
  tableNumbers : List (Text × Nat)
  tables : Array (Table Value)
  /-- The parameters of the function that is being carried out. -/
  locals : List (Text × Slot)
  record : Value
  fields : Array Value
  /-- The ranges that have begun. -/
  ranges : List Nat
  /-- What is still to be written to standard output, the latest first. -/
  pending : List Text
  inputs : List InputStream
  /-- The one that was used last comes first. -/
  outputs : List OutputStream
  mainInput : Option Input
  /-- The argument that is looked at next. -/
  argument : Nat
  /-- Whether any of the arguments was a file. -/
  hasFile : Bool
  seed : Value
  random : List Nat
  status : Nat

/-- Why the rest of an action is not carried out. -/
inductive Stop
  | leaveLoop
  | nextRound
  | nextRecord
  | nextFile
  | leaveFunction (v : Value)
  | exit
  /-- After an error. -/
  | failed
  | killed (signal : Nat)

abbrev Action := ExceptT Stop (StateM State)

def perform {α : Type} (act : Act α) : Action α := fun s =>
  match act s.toProcess with
  | (.ok a, process) => (.ok a, { s with toProcess := process })
  | (.error signal, process) => (.error (.killed signal), { s with toProcess := process })

def complain (t : Text) : Action Unit := do
  let s ← get
  let _ ← perform (Process.write 2 (s.name ++ ": " ++ t ++ "\n"))

namespace State

/-! ## Variables -/

def global (s : State) (name : Text) : Value := (s.bindings.lookup name).getD .unset

def setGlobal (s : State) (name : Text) (v : Value) : State :=
  { s with bindings := setKey name v s.bindings }

def numbers (s : State) : Text := (s.global "CONVFMT").toText "%.6g"

def toText (s : State) (v : Value) : Text :=
  match v with
  | .unset => []
  | .text t | .input t => t
  | .number _ => v.toText s.numbers

def globalText (s : State) (name : Text) : Text := s.toText (s.global name)

/-! ## Tables -/

def tableNumber (s : State) (name : Text) : Nat :=
  match (s.locals.lookup name : Option Slot) with
  | some (.table n) => n
  | _ => (s.tableNumbers.lookup name).getD 0

def isTable (s : State) (name : Text) : Bool :=
  match s.locals.lookup name with
  | some (.table _) => true
  | some (.value _) => false
  | none => (s.tableNumbers.lookup name).isSome

def table (s : State) (number : Nat) : Table Value := s.tables.getD number .empty

def setTable (s : State) (number : Nat) (t : Table Value) : State :=
  { s with tables := s.tables.set! number t }

def keyOf (s : State) (v : Value) : Key :=
  match v with
  | .number x =>
    if isWhole x && x.abs ≤ mostWhole then ⟨Integer.toText (truncated x), some (truncated x)⟩
    else ⟨s.toText v, none⟩
  | v => ⟨s.toText v, none⟩

end State

/-! ## Fields -/

/-- What stands between fields. -/
inductive Separator
  | blanks
  | nothing
  | character (c : Char)
  | pattern (r : Regex)

/-- The pieces between runs of blanks. -/
def words : Text → List Text
  | [] => []
  | c :: t =>
    if Floating.isSpace c then words t
    else match words t, t with
      | ws, [] => [c] :: ws
      | ws, d :: _ =>
        if Floating.isSpace d then [c] :: ws
        else match ws with
          | w :: ws => (c :: w) :: ws
          | [] => [[c]]

/-- Split around matches that are not empty. The latest characters of the current piece come first. -/
def splitAround (r : Regex) : Nat → Bool → Text → Text → List Text
  | 0, _, piece, _ => [piece.reverse]
  | fuel + 1, atStart, piece, t =>
    match t with
    | [] => [piece.reverse]
    | c :: rest =>
      match r.longest? atStart t with
      | some (n + 1) => piece.reverse :: splitAround r fuel false [] (t.drop (n + 1))
      | _ => splitAround r fuel false (c :: piece) rest

def Separator.split (separator : Separator) (t : Text) : List Text :=
  if t = [] then []
  else match separator with
    | .blanks => words t
    | .nothing => t.map fun c => [c]
    | .character c => Text.splitOn c t
    | .pattern r => splitAround r (t.length + 1) true [] t

/-- A text as a separator: one blank stands for all blanks, and other single characters for
themselves. -/
def Separator.ofText? : Text → Except Regex.Fault Separator
  | [] => .ok .nothing
  | [' '] => .ok .blanks
  | [c] => .ok (.character c)
  | t => do .ok (.pattern (← Regex.ofText? t))

/-! ## Errors -/

def fail {α : Type} (t : Text) : Action α := do
  let s ← get
  complain ("run time error: " ++ t ++ "\n\tFILENAME=\"" ++ s.globalText "FILENAME" ++ "\" FNR="
    ++ s.globalText "FNR" ++ " NR=" ++ s.globalText "NR")
  modify fun s => { s with status := 2 }
  throw .failed

def patternFault {α : Type} (fault : Regex.Fault) (t : Text) : Action α :=
  fail ("regular expression compile failed (" ++ fault.message ++ ")\n" ++ t)

/-- The regular expression of a text that was computed. -/
def patternOf (t : Text) : Action Regex :=
  match Regex.ofText? t with
  | .ok r => pure r
  | .error fault => patternFault fault t

def separatorOf (t : Text) : Action Separator :=
  match Separator.ofText? t with
  | .ok separator => pure separator
  | .error fault => patternFault fault t

/-! ## The record -/

def setRecord (v : Value) : Action Unit := do
  let s ← get
  let separator ← separatorOf (s.globalText "FS")
  let fields := (separator.split (s.toText v)).map Value.input
  set { s with record := v, fields := fields.toArray }

def joinFields : Action Unit :=
  modify fun s =>
    let t := Text.join (s.globalText "OFS") (s.fields.toList.map s.toText)
    { s with record := .input t }

/-- More fields than this are too many. -/
def mostFields : Nat := 1000000

def setFieldCount (n : Int) : Action Unit := do
  if n < 0 then fail "negative value assigned to NF"
  else
    modify fun s =>
      let count := min n.toNat mostFields
      { s with fields := (s.fields.extract 0 count)
          ++ Array.replicate (count - s.fields.size) (Value.text []) }
    joinFields

def fieldIndex (x : Float) : Action Nat :=
  let n := truncated x
  if n < 0 then fail ("negative field index $" ++ Integer.toText n) else pure (min n.toNat mostFields)

def field (s : State) (n : Nat) : Value :=
  if n = 0 then s.record else s.fields.getD (n - 1) (.input [])

def setField (n : Nat) (v : Value) : Action Unit := do
  if n = 0 then setRecord v
  else
    modify fun s =>
      let fields := s.fields ++ Array.replicate (n - s.fields.size) (Value.text [])
      { s with fields := fields.set! (n - 1) v }
    joinFields

/-! ## Places -/

inductive Spot
  | variable (name : Text)
  | element (table : Nat) (key : Key)
  | field (n : Nat)

def variableValue (name : Text) : Action Value := do
  let s ← get
  match (s.locals.lookup name : Option Slot) with
  | some (.value v) => pure v
  | some (.table _) => pure .unset
  | none =>
    if name = ("NF" : Text) then pure (.number (Float.ofNat s.fields.size))
    else pure (s.global name)

def setVariable (name : Text) (v : Value) : Action Unit := do
  let s ← get
  if (s.locals.lookup name).isSome then
    set { s with locals := setKey name (.value v) s.locals }
  else if name = ("NF" : Text) then setFieldCount (truncated v.toNumber)
  else set (s.setGlobal name v)

def load : Spot → Action Value
  | .variable name => variableValue name
  | .element number key => do
    let s ← get
    let (v, t) := (s.table number).access key (some .unset)
    set (s.setTable number t)
    pure (v.getD .unset)
  | .field n => do pure (Awk.field (← get) n)

def store (spot : Spot) (v : Value) : Action Unit :=
  match spot with
  | .variable name => setVariable name v
  | .element number key => modify fun s => s.setTable number ((s.table number).set key v)
  | .field n => setField n v

end Snippetry.Awk
