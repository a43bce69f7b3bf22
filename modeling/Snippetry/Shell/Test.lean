import Snippetry.Process.Basic
import Snippetry.Text.Integer

/-! # Conditions: the expressions of `test` -/
namespace Snippetry.Shell.Test

/-- What a word is where an operator may stand. -/
inductive Role
  | unary | binary | negation | conjunction | disjunction | opening | closing | operand | ending
deriving DecidableEq, Repr

def unaryOperators : List Text :=
  ["-r", "-w", "-x", "-e", "-f", "-d", "-c", "-b", "-p", "-u", "-g", "-k", "-s", "-t", "-z", "-n",
   "-h", "-L", "-O", "-G", "-S"].map String.toList

def binaryOperators : List Text :=
  ["=", "!=", "<", ">", "-eq", "-ne", "-ge", "-gt", "-le", "-lt", "-nt", "-ot", "-ef"].map
    String.toList

def operator? (t : Text) : Option Role :=
  if unaryOperators.contains t then some .unary
  else if binaryOperators.contains t then some .binary
  else match String.ofList t with
    | "!" => some .negation
    | "-a" => some .conjunction
    | "-o" => some .disjunction
    | "(" => some .opening
    | ")" => some .closing
    | _ => none

/-- Whether what follows makes an operator with one operand an operand itself. -/
def standsAlone : List Text → Bool
  | [] => true
  | [_] => false
  | t :: _ => operator? t = some .binary

def role : List Text → Role
  | [] => .ending
  | t :: rest =>
    match operator? t with
    | some .unary => if standsAlone rest then .operand else .unary
    | some .opening => if rest = [] then .operand else .opening
    | some r => r
    | none => .operand

/-- Why an expression says nothing. -/
abbrev Verdict := Except Text Bool

def number (t : Text) : Except Text Int :=
  match Integer.whole? (some 10) t with
  | some n => .ok n
  | none => .error ("Illegal number: " ++ t)

def unary (p : Process) (operator operand : Text) : Verdict :=
  let onNode (f : FileNode → Bool) : Verdict := .ok (p.files.isAt f (decodePath operand))
  match String.ofList operator with
  | "-n" => .ok (operand ≠ [])
  | "-z" => .ok (operand = [])
  | "-e" | "-r" | "-w" | "-O" | "-G" => onNode fun _ => true
  | "-f" => onNode FileNode.isFile
  | "-d" => onNode FileNode.isDirectory
  | "-x" => onNode fun node => node.isDirectory || node.isProgram
  | "-c" => onNode FileNode.isDevice
  | "-s" => onNode fun node => match node with
    | .file content => content ≠ []
    | .directory _ | .program => true
    | .device => false
  | "-t" => do .ok (p.isTerminal (← number operand).toNat)
  | _ => .ok false

def binary (p : Process) (operator a b : Text) : Verdict :=
  let compare (f : Int → Int → Bool) : Verdict := do .ok (f (← number a) (← number b))
  let exists? (t : Text) : Bool := p.files.isAt (fun _ => true) (decodePath t)
  match String.ofList operator with
  | "=" => .ok (a = b)
  | "!=" => .ok (a ≠ b)
  | "<" => .ok (a < b)
  | ">" => .ok (b < a)
  | "-eq" => compare fun m n => m = n
  | "-ne" => compare fun m n => m ≠ n
  | "-lt" => compare fun m n => m < n
  | "-le" => compare fun m n => m ≤ n
  | "-gt" => compare fun m n => m > n
  | "-ge" => compare fun m n => m ≥ n
  | "-ef" => .ok (exists? a && exists? b && p.files.names (decodePath a) = p.files.names (decodePath b))
  | _ => .ok false

def fault {α : Type} (operator message : Text) : Except Text α :=
  .error (if operator = [] then message else operator ++ ": " ++ message)

/-- A verdict, and the words from the last one that was used. -/
abbrev Found := Except Text (Bool × List Text)

section

variable (p : Process)

mutual

def disjunction : Nat → List Text → Found
  | 0, ws => .ok (false, ws)
  | fuel + 1, ws => do
    let (a, last) ← conjunction fuel ws
    if role last.tail = .disjunction then
      let (b, last) ← disjunction fuel (last.drop 2)
      .ok (a || b, last)
    else .ok (a, last)

def conjunction : Nat → List Text → Found
  | 0, ws => .ok (false, ws)
  | fuel + 1, ws => do
    let (a, last) ← negation fuel ws
    if role last.tail = .conjunction then
      let (b, last) ← conjunction fuel (last.drop 2)
      .ok (a && b, last)
    else .ok (a, last)

def negation : Nat → List Text → Found
  | 0, ws => .ok (false, ws)
  | fuel + 1, ws =>
    if role ws = .negation then
      if ws.tail = [] then .ok (true, ws)
      else do
        let (a, last) ← negation fuel ws.tail
        .ok (!a, last)
    else primary fuel ws (role ws)

def primary : Nat → List Text → Role → Found
  | 0, ws, _ => .ok (false, ws)
  | fuel + 1, ws, r =>
    match r, ws with
    | .ending, ws => .ok (false, ws)
    | .opening, _ :: rest =>
      if role rest = .closing then .ok (false, rest)
      else do
        let (a, last) ← disjunction fuel rest
        if role last.tail = .closing then .ok (a, last.tail)
        else fault [] "closing paren expected"
    | .unary, operator :: rest =>
      match rest with
      | [] => fault operator "argument expected"
      | operand :: _ => do .ok (← unary p operator operand, rest)
    | _, a :: rest =>
      if role rest = .binary then
        match rest with
        | operator :: b :: after => do .ok (← binary p operator a b, b :: after)
        | _ => fault (rest.headD []) "argument expected"
      else .ok (a ≠ [], a :: rest)
    | _, [] => .ok (false, [])

end

/-- The verdict of an expression that is read from its start as having a role. -/
def judge (ws : List Text) (r : Option Role) : Verdict := do
  let fuel := 4 * ws.length + 4
  let (b, last) ← match r with
    | none => disjunction p fuel ws
    | some r => primary p fuel ws r
  match last with
  | t :: _ :: _ => fault t "unexpected operator"
  | _ => .ok b

/-- The verdict on all the arguments; none at all are false. Few of them are read by their number. -/
def verdict : Nat → List Text → Verdict
  | 0, _ => .ok false
  | fuel + 1, ws =>
    match ws with
    | [] => .ok false
    | [a, b, c] =>
      if operator? b = some .binary then judge p ws (some .operand) else enclosed fuel a [b] c
    | [a, b, c, d] => enclosed fuel a [b, c] d
    | ws => judge p ws none
where
  enclosed (fuel : Nat) (first : Text) (inner : List Text) (last : Text) : Verdict :=
    if first = ['('] && last = [')'] then judge p inner none
    else if first = ['!'] then do .ok (!(← verdict fuel (inner ++ [last])))
    else judge p (first :: inner ++ [last]) none

end

end Snippetry.Shell.Test
