import Snippetry.Shell.State
import Snippetry.Text.Integer

/-! # Arithmetic in the shell

Numbers have 64 bits and wrap around. -/
namespace Snippetry.Shell

inductive Symbol
  | number (n : Int)
  | name (t : Text)
  | operator (t : Text)
  /-- A character that means nothing here. -/
  | stray
deriving DecidableEq, Repr

/-- Why an expression has no value. -/
inductive ArithmeticError
  | expecting (what : Text)
  | divisionByZero
  | illegalNumber (t : Text)
  | isFixed (name : Text)
deriving DecidableEq, Repr

def ArithmeticError.message (expression : Text) : ArithmeticError → Text
  | expecting what => "arithmetic expression: expecting " ++ what ++ ": \"" ++ expression ++ "\""
  | divisionByZero => "arithmetic expression: division by zero: \"" ++ expression ++ "\""
  | illegalNumber t => "Illegal number: " ++ t
  | isFixed name => name ++ ": is read only"

def operatorTexts : List Text :=
  List.map String.toList ["<<=", ">>=", "&&", "||", "==", "!=", "<=", ">=", "<<", ">>", "+=", "-=",
    "*=", "/=", "%=", "&=", "|=", "^=", "+", "-", "*", "/", "%", "<", ">", "=", "!", "~", "&", "|",
    "^", "?", ":", "(", ")"]

def symbols : Nat → Text → List Symbol
  | 0, _ => []
  | _, [] => []
  | fuel + 1, c :: rest =>
    let t := c :: rest
    if c = ' ' || c = '\t' || c = '\n' then symbols fuel rest
    else if c.isDigit then
      match Integer.digits? none t with
      | some (n, rest) => .number (Integer.clamp n) :: symbols fuel rest
      | none => [.stray]
    else if isNameStart c then
      let word := t.takeWhile isNameChar
      .name word :: symbols fuel (t.drop word.length)
    else match operatorTexts.find? fun operator => operator.isPrefixOf t with
      | some operator => .operator operator :: symbols fuel (t.drop operator.length)
      | none => [.stray]

/-- How tightly an operator with two operands binds; the tightest have the lowest number. -/
def looseness? (operator : Text) : Option Nat :=
  let table : List (List String) :=
    [["*", "/", "%"], ["+", "-"], ["<<", ">>"], ["<", ">", "<=", ">="], ["==", "!="], ["&"], ["^"],
     ["|"]]
  table.findIdx? fun operators => (operators.map String.toList).contains operator

def loosest : Nat := 8

def ofTruth (b : Bool) : Int := if b then 1 else 0

def shift (b : Int) : Int := Int.ofNat (Nat.pow 2 (b % 64).toNat)

/-- The value of two operands; `none` for a division by zero. -/
def combine (operator : Text) (a b : Int) : Option Int :=
  match String.ofList operator with
  | "*" => some (Integer.wrap (a * b))
  | "/" => if b = 0 then none else some (Integer.wrap (a.tdiv b))
  | "%" => if b = 0 then none else some (Integer.wrap (a.tmod b))
  | "+" => some (Integer.wrap (a + b))
  | "-" => some (Integer.wrap (a - b))
  | "<<" => some (Integer.wrap (a * shift b))
  | ">>" => some (a.fdiv (shift b))
  | "<" => some (ofTruth (a < b))
  | ">" => some (ofTruth (a > b))
  | "<=" => some (ofTruth (a ≤ b))
  | ">=" => some (ofTruth (a ≥ b))
  | "==" => some (ofTruth (a = b))
  | "!=" => some (ofTruth (a ≠ b))
  | "&" => some (Int64.toInt (Int64.ofInt a &&& Int64.ofInt b))
  | "^" => some (Int64.toInt (Int64.ofInt a ^^^ Int64.ofInt b))
  | _ => some (Int64.toInt (Int64.ofInt a ||| Int64.ofInt b))

/-- An expression that is being computed: the symbols still to come, and the variables. -/
structure Computing where
  symbols : List Symbol
  shell : State

abbrev Compute := EStateM ArithmeticError Computing

namespace Compute

def peek : Compute (Option Symbol) := do pure (← get).symbols.head?

def pass : Compute Unit := modify fun c => { c with symbols := c.symbols.tail }

/-- Pass over an operator, if it is at hand. -/
def passIf (operator : String) : Compute Bool := do
  if (← peek) = some (.operator operator.toList) then
    pass
    pure true
  else pure false

/-- The value of a variable, which should be a number; none is zero. -/
def valueOf (name : Text) : Compute Int := do
  let t := ((← get).shell.value? name).getD []
  match Integer.whole? none t with
  | some n => pure n
  | none => throw (.illegalNumber t)

def assign (name : Text) (n : Int) : Compute Int := do
  let c ← get
  if (c.shell.named? name).any Variable.fixed then throw (.isFixed name)
  else
    set { c with shell := c.shell.assign name (Integer.toText n) }
    pure n

def combined (operator : Text) (a b : Int) : Compute Int :=
  match combine operator a b with
  | some n => pure n
  | none => throw .divisionByZero

mutual

/-- With `idle` nothing is assigned, and the value is of no use. -/
def assignment : Nat → Bool → Compute Int
  | 0, _ => throw (.expecting "primary")
  | fuel + 1, idle => do
    match (← get).symbols with
    | .name name :: .operator operator :: _ =>
      let isChange := operator.length ≥ 2 && operator.getLast? = some '='
        && (looseness? operator.dropLast).isSome && (looseness? operator).isNone
      if operator = ['='] || isChange then
        pass
        pass
        let n ← assignment fuel idle
        if idle then pure n
        else if isChange then do
          assign name (← combined operator.dropLast (← valueOf name) n)
        else assign name n
      else conditional fuel idle
    | _ => conditional fuel idle

def conditional : Nat → Bool → Compute Int
  | 0, _ => throw (.expecting "primary")
  | fuel + 1, idle => do
    let a ← disjunction fuel idle
    if ← passIf "?" then
      let b ← assignment fuel (idle || a = 0)
      if ← passIf ":" then
        let c ← conditional fuel (idle || a ≠ 0)
        pure (if a ≠ 0 then b else c)
      else throw (.expecting "':'")
    else pure a

def disjunction : Nat → Bool → Compute Int
  | 0, _ => throw (.expecting "primary")
  | fuel + 1, idle => do
    let a ← conjunction fuel idle
    if ← passIf "||" then
      let b ← disjunction fuel (idle || a ≠ 0)
      pure (ofTruth (a ≠ 0 || b ≠ 0))
    else pure a

def conjunction : Nat → Bool → Compute Int
  | 0, _ => throw (.expecting "primary")
  | fuel + 1, idle => do
    let a ← binary fuel idle loosest
    if ← passIf "&&" then
      let b ← conjunction fuel (idle || a = 0)
      pure (ofTruth (a ≠ 0 && b ≠ 0))
    else pure a

/-- Operators that bind more tightly than `bound`. -/
def binary : Nat → Bool → Nat → Compute Int
  | 0, _, _ => throw (.expecting "primary")
  | fuel + 1, idle, bound => do binaryFrom fuel idle bound (← primary fuel idle)

def binaryFrom : Nat → Bool → Nat → Int → Compute Int
  | 0, _, _, _ => throw (.expecting "primary")
  | fuel + 1, idle, bound, a => do
    match ← peek with
    | some (.operator operator) =>
      match looseness? operator with
      | some k =>
        if k < bound then
          pass
          let b ← binary fuel idle k
          binaryFrom fuel idle bound (← if idle then pure b else combined operator a b)
        else pure a
      | none => pure a
    | _ => pure a

def primary : Nat → Bool → Compute Int
  | 0, _ => throw (.expecting "primary")
  | fuel + 1, idle => do
    match ← peek with
    | some (.number n) =>
      pass
      pure n
    | some (.name name) =>
      pass
      if idle then pure 0 else valueOf name
    | some (.operator ['(']) =>
      pass
      let n ← assignment fuel idle
      if ← passIf ")" then pure n else throw (.expecting "')'")
    | some (.operator ['+']) =>
      pass
      primary fuel idle
    | some (.operator ['-']) => do
      pass
      pure (Integer.wrap (-(← primary fuel idle)))
    | some (.operator ['!']) => do
      pass
      pure (ofTruth ((← primary fuel idle) = 0))
    | some (.operator ['~']) => do
      pass
      pure (-(← primary fuel idle) - 1)
    | _ => throw (.expecting "primary")

end

def whole (most : Nat) : Compute Int := do
  let n ← assignment most false
  if (← peek).isSome then throw (.expecting "EOF") else pure n

end Compute

/-- The value of an expression, and the shell after it. -/
def compute (t : Text) (sh : State) : Except ArithmeticError (Int × State) :=
  let s := symbols (t.length + 1) t
  match Compute.whole (16 * s.length + 16) ⟨s, sh⟩ with
  | .ok n c => .ok (n, c.shell)
  | .error e _ => .error e

end Snippetry.Shell
