import Snippetry.Text.Basic

/-! # Patterns with wildcards -/
namespace Snippetry.Shell

abbrev PatternChar := Char × Bool

abbrev Pattern := List PatternChar

namespace Pattern

/-- A bare backslash lets the next character stand for itself. -/
def settle : Pattern → Pattern
  | ('\\', false) :: (c, _) :: p => (c, true) :: settle p
  | ('\\', false) :: [] => [('\\', true)]
  | a :: p => a :: settle p
  | [] => []

/-- The order of characters is that of signed bytes. -/
def rank (c : Char) : Int := if c.toNat < 128 then c.toNat else (c.toNat : Int) - 256

def isBlankByte (c : Char) : Bool := c = ' ' || ('\t' ≤ c && c ≤ '\r')

def isGraphic (c : Char) : Bool := '!' ≤ c && c ≤ '~'

def classes : List (Text × (Char → Bool)) :=
  [("alnum", Char.isAlphanum), ("alpha", Char.isAlpha), ("blank", fun c => c = ' ' || c = '\t'),
   ("cntrl", fun c => c < ' ' || c = '\x7f'), ("digit", Char.isDigit), ("graph", isGraphic),
   ("lower", Char.isLower), ("print", fun c => c = ' ' || isGraphic c),
   ("punct", fun c => isGraphic c && !c.isAlphanum), ("space", isBlankByte),
   ("upper", Char.isUpper),
   ("xdigit", fun c => c.isDigit || ('a' ≤ c && c ≤ 'f') || ('A' ≤ c && c ≤ 'F'))]

/-- An element of a set between brackets. -/
inductive Member
  | range (low high : Char)
  | kind (name : Text)
deriving DecidableEq, Repr

def Member.has (c : Char) : Member → Bool
  | range low high => rank low ≤ rank c && rank c ≤ rank high
  | kind name => (classes.lookup name).any fun f => f c

/-- The name of a class after its opening bracket, and what follows it. -/
def className? (p : Pattern) : Option (Text × Pattern) :=
  match p with
  | (':', false) :: rest =>
    let name := (rest.takeWhile fun (c, literal) => c.isLower && !literal).map Prod.fst
    match rest.drop name.length with
    | (':', false) :: (']', false) :: rest =>
      if (classes.lookup name).isSome then some (name, rest) else none
    | _ => none
  | _ => none

/-- The members of a set up to its closing bracket, and what follows it. -/
def members : Nat → Bool → Pattern → Option (List Member × Pattern)
  | 0, _, _ => none
  | _, _, [] => none
  | fuel + 1, first, (a, literal) :: p =>
    let single : Option (List Member × Pattern) :=
      match p with
      | ('-', false) :: (b, q) :: rest =>
        if b = ']' && !q then
          (members fuel false p).map fun (ms, rest) => (.range a a :: ms, rest)
        else (members fuel false rest).map fun (ms, rest) => (.range a b :: ms, rest)
      | _ => (members fuel false p).map fun (ms, rest) => (.range a a :: ms, rest)
    if literal then single
    else if a = ']' && !first then some ([], p)
    else if a = '[' then
      match className? p with
      | some (name, rest) =>
        (members fuel false rest).map fun (ms, rest) => (.kind name :: ms, rest)
      | none => single
    else single

/-- Whether the members are excluded, the members, and what follows the set. -/
def set? (p : Pattern) : Option (Bool × List Member × Pattern) :=
  match p with
  | ('!', false) :: p => (members p.length true p).map fun (ms, rest) => (true, ms, rest)
  | p => (members p.length true p).map fun (ms, rest) => (false, ms, rest)

def matchFrom : Nat → Pattern → Text → Bool
  | 0, _, _ => false
  | fuel + 1, p, t =>
    match p, t with
    | [], t => t.isEmpty
    | ('*', false) :: p, [] => matchFrom fuel p []
    | ('*', false) :: p, c :: t =>
      matchFrom fuel p (c :: t) || matchFrom fuel (('*', false) :: p) t
    | ('?', false) :: p, _ :: t => matchFrom fuel p t
    | ('[', false) :: p, c :: t =>
      match set? p with
      | some (excluded, ms, rest) => (ms.any (Member.has c) != excluded) && matchFrom fuel rest t
      | none => c = '[' && matchFrom fuel p t
    | (a, _) :: p, c :: t => a = c && matchFrom fuel p t
    | _ :: _, [] => false

def isMatch (p : Pattern) (t : Text) : Bool :=
  let p := settle p
  matchFrom (p.length + t.length + 1) p t

def hasWildcard (p : Pattern) : Bool :=
  p.any fun (c, literal) => !literal && (c = '*' || c = '?' || c = '[')

def plain (p : Pattern) : Text := p.map Prod.fst

/-- How many characters to cut off: among the lengths in order of preference, the first whose part
matches. -/
def cutLength (p : Pattern) (part : Nat → Text) (lengths : List Nat) : Nat :=
  (lengths.find? fun n => p.isMatch (part n)).getD 0

/-- Remove the shortest or the longest start, or end, that matches. -/
def trim (p : Pattern) (fromStart longest : Bool) (t : Text) : Text :=
  let lengths := List.range (t.length + 1)
  let lengths := if longest then lengths.reverse else lengths
  if fromStart then t.drop (p.cutLength t.take lengths)
  else t.take (t.length - p.cutLength (fun n => t.drop (t.length - n)) lengths)

end Pattern
end Snippetry.Shell
