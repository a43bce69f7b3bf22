import Snippetry.Shell.Syntax

/-! # Reading scripts: characters and tokens

A reader goes through the text of a script. The text of an alias is read in the place of its name;
until it is read to its end, the alias is in use and does not stand for anything. -/
namespace Snippetry.Shell

/-- The text of an alias that is being read. -/
structure Substitution where
  name : Text
  rest : Text
  /-- Whether the word after it may be an alias as well. -/
  endsInBlank : Bool

/-- A text to read, and the line at hand. -/
structure Feed where
  /-- The innermost one comes first. -/
  substitutions : List Substitution
  rest : Text
  line : Nat

namespace Feed

def ofText (line : Nat) (t : Text) : Feed := ⟨[], t, line⟩

/-- Without the aliases that are read to their ends, and whether one of them ends in a blank. -/
def settle : List Substitution → List Substitution × Bool
  | [] => ([], false)
  | s :: ss =>
    if s.rest = [] then
      let (left, blank) := settle ss
      (left, s.endsInBlank || blank)
    else (s :: ss, false)

def peek? (f : Feed) : Option Char :=
  match (settle f.substitutions).1 with
  | s :: _ => s.rest.head?
  | [] => f.rest.head?

def pass (f : Feed) : Feed × Bool :=
  let line := if f.peek? = some '\n' then f.line + 1 else f.line
  let (left, blank) := settle f.substitutions
  match left with
  | s :: ss => (⟨{ s with rest := s.rest.tail } :: ss, f.rest, line⟩, blank)
  | [] => (⟨[], f.rest.tail, line⟩, blank)

/-- Whether a backslash at hand joins this line with the next one. -/
def continues (f : Feed) : Bool := f.peek? = some '\\' && f.pass.1.peek? = some '\n'

end Feed

/-- An operator that redirects a descriptor. -/
inductive Arrow
  | read | write | clobber | append | readWrite | copy
  | document (stripTabs : Bool)
deriving DecidableEq, Repr

inductive Token
  | endOfFile | newline | semicolon | background | both | either | pipe
  | openParen | closeParen | endClause
  | redirection (descriptor : Nat) (arrow : Arrow)
  | keyword (t : Text)
  | word (w : Word)

namespace Token

/-- What a token is called in messages. -/
def title : Token → Text
  | endOfFile => "end of file"
  | newline => "newline"
  | semicolon => "\";\""
  | background => "\"&\""
  | both => "\"&&\""
  | either => "\"||\""
  | pipe => "\"|\""
  | openParen => "\"(\""
  | closeParen => "\")\""
  | endClause => "\";;\""
  | redirection _ _ => "redirection"
  | keyword t => '"' :: t ++ ['"']
  | word _ => "word"

def isKeyword (t : Token) (k : String) : Bool :=
  match t with
  | keyword w => w = k.toList
  | _ => false

/-- Whether a list of commands may end before the token. -/
def endsList : Token → Bool
  | endOfFile | closeParen | endClause => true
  | keyword t =>
    (["do", "done", "elif", "else", "esac", "fi", "then", "\x7d"].map String.toList).contains t
  | _ => false

end Token

/-- What is looked for in the next token. -/
structure Checks where
  newlines : Bool
  keywords : Bool
  aliases : Bool
  /-- It is the delimiter of a here-document, in which nothing expands. -/
  delimiter : Bool

namespace Checks

def none : Checks := ⟨false, false, false, false⟩

/-- Where a command may begin after line ends. -/
def command : Checks := ⟨true, true, true, false⟩

end Checks

/-- A here-document whose text is still to come. -/
structure Awaited where
  number : Nat
  delimiter : Text
  /-- Whether its text is taken as it is. -/
  quoted : Bool
  stripTabs : Bool

structure Reader where
  feed : Feed
  /-- Whether the last token is to be read once more. -/
  held : Bool
  last : Token
  checks : Checks
  awaited : List Awaited
  documents : List (Nat × Word)
  /-- How many here-documents there are. -/
  count : Nat
  aliases : List (Text × Text)
  /-- Aliases that are being read in texts around this one. -/
  outer : List Text

/-- Reading may fail with a message. -/
abbrev Read := EStateM Text Reader

def misread {α : Type} (t : Text) : Read α := throw ("Syntax error: " ++ t)

/-- The last token is not allowed here. -/
def unexpected {α : Type} (expecting : Text) : Read α := do
  let title := (← get).last.title
  let hint : Text := if expecting = [] then [] else " (expecting " ++ expecting ++ ")"
  misread ((title ++ " unexpected" ++ hint).take 63)

def peek : Read (Option Char) := do pure (← get).feed.peek?

def pass : Read Unit :=
  modify fun r =>
    let (feed, blank) := r.feed.pass
    { r with feed, checks := { r.checks with aliases := r.checks.aliases || blank } }

/-- Pass over a character that ends no line, whatever it is. -/
def passUncounted : Read Unit := do
  let line := (← get).feed.line
  pass
  modify fun r => { r with feed := { r.feed with line } }

/-- Pass over the ends of continued lines. -/
def joinLines : Nat → Read Unit
  | 0 => pure ()
  | fuel + 1 => do
    if (← get).feed.continues then
      pass
      pass
      joinLines fuel

def longest : Nat := 10000000

/-- The next character that is not the end of a continued line. -/
def peekJoined : Read (Option Char) := do
  joinLines longest
  peek

/-- Pass over the next character, if it is this one. -/
def passIf (c : Char) : Read Bool := do
  if (← peekJoined) = some c then
    pass
    pure true
  else pure false

/-- The characters of a kind at hand. -/
def takeJoined (kind : Char → Bool) : Nat → Text → Read Text
  | 0, found => pure found.reverse
  | fuel + 1, found => do
    match ← peekJoined with
    | some c =>
      if kind c then
        pass
        takeJoined kind fuel (c :: found)
      else pure found.reverse
    | none => pure found.reverse

/-- Read as if the last token had not been read. -/
def holdBack : Read Unit := modify fun r => { r with held := true }

def expect (checks : Checks) : Read Unit := modify fun r => { r with checks }

/-- Whether the aliases that are being read include one. -/
def isInUse (r : Reader) (name : Text) : Bool :=
  r.outer.contains name || r.feed.substitutions.any fun s => s.name = name

def substituteAlias (name value : Text) : Read Unit :=
  modify fun r =>
    let blank := match value.getLast? with
      | some c => c = ' ' || c = '\t'
      | none => false
    { r with feed := { r.feed with substitutions := ⟨name, value, blank⟩ :: r.feed.substitutions } }

/-- Pass over the delimiter of a here-document, if the line at hand is one. -/
def passDelimiter (stripTabs : Bool) (delimiter : Text) : Read Bool := do
  if stripTabs then skipTabs longest
  let start := (← get).feed
  if ← passAll delimiter then pure true
  else
    modify fun r => { r with feed := start }
    pure false
where
  skipTabs : Nat → Read Unit
    | 0 => pure ()
    | fuel + 1 => do
      if (← peek) = some '\t' then
        pass
        skipTabs fuel
  passAll : Text → Read Bool
    | [] => do
      match ← peek with
      | some c =>
        if c = '\n' then
          pass
          pure true
        else pure false
      | none => pure true
    | c :: t => do
      if (← peek) = some c then
        pass
        passAll t
      else pure false

end Snippetry.Shell
