import Snippetry.Text.Basic

/-! # The syntax of the shell

The shell works on bytes; each stands for the character with its number. -/
namespace Snippetry.Shell

mutual

/-- A part of a word. What expands between quotes is not split into fields. -/
inductive Part
  | text (t : Text)
  /-- Characters that stand for themselves. -/
  | escaped (t : Text)
  | quotes (parts : List Part)
  | parameter (name : Text) (operation : Operation)
  | command (script : Command)
  | arithmetic (expression : List Part)

/-- What is made of the value of a parameter. With `orEmpty` an empty value counts as none. -/
inductive Operation
  | value
  | length
  | fallback (orEmpty : Bool) (word : List Part)
  | assign (orEmpty : Bool) (word : List Part)
  | require (orEmpty : Bool) (word : List Part)
  | replace (orEmpty : Bool) (word : List Part)
  /-- Remove the shortest or the longest part at the start or the end that matches a pattern. -/
  | trim (fromStart longest : Bool) (pattern : List Part)
  /-- The value, and a word after it. -/
  | followed (word : List Part)
  /-- One that makes no sense. -/
  | malformed

inductive Target
  | read (path : List Part)
  | write (path : List Part)
  /-- Write even to a file that is there. -/
  | clobber (path : List Part)
  | append (path : List Part)
  | readWrite (path : List Part)
  /-- The same as another descriptor; nowhere for none. -/
  | copy (source : Option Nat)
  /-- The same as one whose number is a word. -/
  | copyNamed (source : List Part)
  /-- A here-document, by its number. Its text is read after the line. -/
  | document (number : Nat)

inductive Redirection
  | mk (descriptor : Nat) (target : Target)

/-- A command. `line` is where it stands. -/
inductive Command
  | nothing
  | simple (line : Nat) (assignments words : List (List Part)) (redirections : List Redirection)
  | redirected (line : Nat) (body : Command) (redirections : List Redirection)
  | subshell (line : Nat) (body : Command) (redirections : List Redirection)
  | background (line : Nat) (body : Command) (redirections : List Redirection)
  | pipeline (inBackground : Bool) (commands : List Command)
  | negated (body : Command)
  | both (first second : Command)
  | either (first second : Command)
  | sequence (first second : Command)
  | conditional (condition positive : Command) (negative : Option Command)
  | loop (untilTrue : Bool) (condition body : Command)
  | forEach (line : Nat) (name : Text) (words : List (List Part)) (body : Command)
  | choice (line : Nat) (subject : List Part) (clauses : List Clause)
  | define (line : Nat) (name : Text) (body : Command)

inductive Clause
  | mk (patterns : List (List Part)) (body : Command)

end

abbrev Word := List Part

namespace Word

/-- The text of a word in which nothing is quoted or expanded. -/
def bare? : Word → Option Text
  | [] => some []
  | .text t :: parts => (bare? parts).map (t ++ ·)
  | _ => none

/-- A word as it is, without its quotes. -/
def plain : Nat → Word → Text
  | 0, _ => []
  | _, [] => []
  | fuel + 1, part :: parts =>
    (match part with
      | .text t | .escaped t => t
      | .quotes inner => plain fuel inner
      | _ => []) ++ plain fuel parts

end Word

/-! ## Characters -/

def isNameStart (c : Char) : Bool := c.isAlpha || c = '_'

def isNameChar (c : Char) : Bool := c.isAlphanum || c = '_'

def isName : Text → Bool
  | [] => false
  | c :: t => isNameStart c && t.all isNameChar

def isSpecialParameter (c : Char) : Bool := (['!', '#', '$', '*', '-', '?', '@'] : Text).contains c

def keywords : List Text :=
  ["!", "case", "do", "done", "elif", "else", "esac", "fi", "for", "if", "in", "then", "until",
   "while", "\x7b", "\x7d"].map String.toList

/-- Commands that are part of the language: an error in them ends the shell. -/
def specialBuiltins : List Text :=
  [":", ".", "break", "continue", "eval", "exec", "exit", "export", "readonly", "return", "set",
   "shift", "times", "trap", "unset", "local"].map String.toList

end Snippetry.Shell
