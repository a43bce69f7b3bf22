import Snippetry.Awk.Regex

/-! # The syntax of awk programs -/
namespace Snippetry.Awk

inductive Arithmetic
  | add | subtract | multiply | divide | remainder | power
deriving DecidableEq, Repr

inductive Comparison
  | less | atMost | equal | unequal | greater | atLeast
deriving DecidableEq, Repr

inductive Builtin
  | atan2 | close | cos | exp | fflush | index | int | length | log | matchPlace | rand | sin | sprintf
  | sqrt | srand | substr | system | tolower | toupper
deriving DecidableEq, Repr

/-- Where print statements write to. -/
inductive Redirection
  | write | append | pipe
deriving DecidableEq, Repr

mutual

inductive Expr
  | number (x : Float)
  | text (t : Text)
  /-- Stands for a match with the record, or for itself where a regular expression is asked for. -/
  | regex (r : Regex)
  | read (p : Place)
  | assign (p : Place) (operator : Option Arithmetic) (value : Expr)
  /-- Change by one; the value is that before or after the change. -/
  | step (p : Place) (up before : Bool)
  | sign (negative : Bool) (e : Expr)
  | not (e : Expr)
  | arithmetic (operator : Arithmetic) (a b : Expr)
  | compare (operator : Comparison) (a b : Expr)
  | like (negated : Bool) (a b : Expr)
  | both (a b : Expr)
  | either (a b : Expr)
  | choice (c a b : Expr)
  | concat (a b : Expr)
  | isKey (keys : List Expr) (table : Text)
  | call (name : Text) (arguments : List Expr)
  | builtin (f : Builtin) (arguments : List Expr)
  | split (e : Expr) (table : Text) (separator : Option Expr)
  | replace (all : Bool) (pattern replacement : Expr) (p : Place)
  | getline (source : Source) (p : Option Place)

/-- What has a value that can be changed. -/
inductive Place
  | variable (name : Text)
  | element (table : Text) (keys : List Expr)
  | field (e : Expr)

inductive Source
  | main
  | file (e : Expr)
  | command (e : Expr)

end

inductive Stmt
  | nothing
  | expr (e : Expr)
  | print (values : List Expr) (target : Option (Redirection × Expr))
  | printf (values : List Expr) (target : Option (Redirection × Expr))
  | block (body : List Stmt)
  | conditional (c : Expr) (positive : Stmt) (negative : Option Stmt)
  | loop (c : Expr) (body : Stmt)
  | loopAfter (body : Stmt) (c : Expr)
  | counted (first condition next : Option Expr) (body : Stmt)
  | forKeys (p : Place) (table : Text) (body : Stmt)
  | delete (table : Text) (keys : Option (List Expr))
  | next
  | nextFile
  | exit (e : Option Expr)
  | leaveFunction (e : Option Expr)
  | leaveLoop
  | nextRound

inductive Trigger
  | begin
  | finish
  | always
  | when (e : Expr)
  /-- From a record to another one; ranges are numbered. -/
  | range (number : Nat) (first last : Expr)

structure Rule where
  trigger : Trigger
  /-- The record is printed if there is none. -/
  action : Option (List Stmt)

structure Parameter where
  name : Text
  isTable : Bool

structure Function where
  parameters : List Parameter
  body : List Stmt

structure Program where
  rules : List Rule
  functions : List (Text × Function)
  tables : List Text

end Snippetry.Awk
