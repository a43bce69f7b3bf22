import Snippetry.Text.Basic

/-! # Reading options and arguments

The words of a command are read from left to right into a record. The value of an option that stands
in a word of its own is not looked at before the next option or argument is. -/
namespace Snippetry.CommandLine

/-- Why a command line is not carried out. -/
inductive UsageError
  | helpAsked
  | versionAsked
  /-- There is no command at all. -/
  | nothingAsked
  | unknownCommand
  | unknownArgument
  /-- An option lacks its value, or the value is none of those allowed. -/
  | invalidValue
  /-- An option has a value and takes none. -/
  | needlessValue
  /-- An option is given twice. -/
  | repeated
  /-- A value is malformed. -/
  | malformedValue
  | missingArgument
deriving DecidableEq, Repr

/-- Asking for help or for the version is no failure. -/
def UsageError.exitCode : UsageError → Nat
  | helpAsked | versionAsked => 0
  | _ => 2

abbrev Setter (α : Type) := Text → α → Except UsageError α

inductive Effect (α : Type)
  | flag (set : α → Except UsageError α)
  | value (set : Setter α)

structure Spelling (α : Type) where
  short : Option Char
  long : Text
  effect : Effect α

/-- The options of a command, and its only argument. -/
structure Grammar (α : Type) where
  options : List (Spelling α)
  argument? : α → Option Text
  setArgument : Text → α → α

structure Progress (α : Type) where
  args : α
  /-- An option whose value is awaited or was not looked at. -/
  pending : Option (Setter α × Option Text)
  /-- Whether `--` was read. -/
  argumentsOnly : Bool

namespace Progress

variable {α : Type}

def start (args : α) : Progress α := ⟨args, none, false⟩

def settle (p : Progress α) : Except UsageError (Progress α) :=
  match p.pending with
  | none => .ok p
  | some (_, none) => .error .invalidValue
  | some (set, some value) => do .ok { p with args := ← set value p.args, pending := none }

def raise (p : Progress α) (set : α → Except UsageError α) : Except UsageError (Progress α) := do
  let p ← p.settle
  .ok { p with args := ← set p.args }

def await (p : Progress α) (set : Setter α) : Except UsageError (Progress α) := do
  .ok { ← p.settle with pending := some (set, none) }

/-- An option in full, with the value after its equals sign. -/
def long (g : Grammar α) (p : Progress α) (name : Text) (value : Option Text) :
    Except UsageError (Progress α) :=
  match (g.options.find? (·.long = name)).map Spelling.effect, value with
  | none, _ => .error .unknownArgument
  | some (.flag _), some _ => .error .needlessValue
  | some (.flag set), none => p.raise set
  | some (.value set), some value => p.raise (set value)
  | some (.value set), none => p.await set

/-- Letters after one dash. The rest of the word after the letter of an option with a value is the
value; an equals sign between them does not belong to it. -/
def short (g : Grammar α) (p : Progress α) : Text → Except UsageError (Progress α)
  | [] => .ok p
  | letter :: rest =>
    match (g.options.find? (·.short = some letter)).map Spelling.effect with
    | none => .error .unknownArgument
    | some (.flag set) => do short g (← p.raise set) rest
    | some (.value set) =>
      match rest with
      | [] => p.await set
      | '=' :: value => p.raise (set value)
      | value => p.raise (set value)

def argument (g : Grammar α) (p : Progress α) (word : Text) : Except UsageError (Progress α) :=
  if (g.argument? p.args).isSome then .error .unknownArgument
  else p.raise fun args => .ok (g.setArgument word args)

def splitValue (t : Text) : Text × Option Text :=
  match Text.splitFirst? "=" t with
  | some (name, value) => (name, some value)
  | none => (t, none)

def step (g : Grammar α) (p : Progress α) (word : Text) : Except UsageError (Progress α) :=
  if p.argumentsOnly then p.argument g word
  else match word, p.pending with
    | ['-', '-'], _ => .ok { p with argumentsOnly := true }
    | '-' :: '-' :: option, _ => let (name, value) := splitValue option; p.long g name value
    | '-' :: letter :: letters, _ => p.short g (letter :: letters)
    | _, some (set, none) => .ok { p with pending := some (set, some word) }
    | _, _ => p.argument g word

end Progress

def Grammar.read {α : Type} (g : Grammar α) (args : α) (words : List Text) : Except UsageError α := do
  let p ← words.foldlM (Progress.step g) (.start args)
  .ok (← p.settle).args

end Snippetry.CommandLine
