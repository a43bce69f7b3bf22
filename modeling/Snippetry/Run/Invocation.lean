import Snippetry.Language

/-! # How the interpreters of the languages are called -/
namespace Snippetry

/-- How an interpreter gets the program. -/
inductive Delivery
  | standardInput
  /-- In a file that is named after `flag`. -/
  | programFile (flag : Text)
deriving DecidableEq, Repr

structure Invocation where
  program : Text
  delivery : Delivery
  /-- The ending of the name of a source file. -/
  suffix : Text
deriving DecidableEq, Repr

/-- The arguments that point an interpreter at a source file. -/
def Invocation.fileArguments (i : Invocation) (path : Text) : List Text :=
  match i.delivery with
  | .standardInput => [path]
  | .programFile flag => [flag, path]

namespace Language

def suffix : Language → Text
  | node => ".js"
  | sh | bash | zsh => ".sh"
  | php => ".php"
  | perl => ".pl"
  | awk | gawk | nawk => ".awk"
  | python _ => ".py"

def invocation (l : Language) : Invocation :=
  ⟨l.tag, if l.isAwk then .programFile "-f" else .standardInput, l.suffix⟩

def openTag : Text := "<?php"

/-- Lines that PHP would print and not run unless an open tag precedes them. -/
def lacksOpenTag (l : Language) (lines : List Text) : Bool :=
  l = php && match lines with
    | [] => true
    | first :: _ => !Text.contains first openTag

/-- The program text made of the expanded lines of a snippet. -/
def program (l : Language) (lines : List Text) : Text :=
  (if l.lacksOpenTag lines then openTag ++ ['\n'] else []) ++ lines.flatMap (· ++ ['\n'])

end Language
end Snippetry
