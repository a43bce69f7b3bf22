import Snippetry.Text.Floating

/-! # Regular expressions

A text is followed by what is left of the expression after each character. -/
namespace Snippetry.Awk

structure CharSet where
  isComplement : Bool
  ranges : List (Char × Char)
deriving DecidableEq, Repr

namespace CharSet

def has (s : CharSet) (c : Char) : Bool :=
  (s.ranges.any fun (low, high) => low ≤ c && c ≤ high) != s.isComplement

def single (c : Char) : CharSet := ⟨false, [(c, c)]⟩

def all : CharSet := ⟨true, []⟩

end CharSet

inductive Regex
  /-- Matches no text. -/
  | never
  | empty
  | start
  | finish
  | one (s : CharSet)
  | both (r s : Regex)
  | either (r s : Regex)
  | star (r : Regex)
deriving DecidableEq, Repr

namespace Regex

/-! ## Matching -/

/-- Whether the empty text between two places matches. -/
def isEmptyAt (atStart atEnd : Bool) : Regex → Bool
  | never | one _ => false
  | empty | star _ => true
  | start => atStart
  | finish => atEnd
  | both r s => r.isEmptyAt atStart atEnd && s.isEmptyAt atStart atEnd
  | either r s => r.isEmptyAt atStart atEnd || s.isEmptyAt atStart atEnd

def sequence : Regex → Regex → Regex
  | never, _ => never
  | empty, s => s
  | r, s => both r s

def choices : Regex → List Regex
  | either r s => r.choices ++ s.choices
  | r => [r]

/-- Either of two expressions, each choice once. -/
def choice (r s : Regex) : Regex :=
  if r = never then s
  else (s.choices.filter fun c => c ≠ never && !r.choices.contains c).foldl either r

/-- What is left to match after a character. -/
def after (atStart : Bool) (c : Char) : Regex → Regex
  | never | empty | start | finish => never
  | one s => if s.has c then empty else never
  | both r s =>
    let first := sequence (r.after atStart c) s
    if r.isEmptyAt atStart false then choice first (s.after atStart c) else first
  | either r s => choice (r.after atStart c) (s.after atStart c)
  | star r => sequence (r.after atStart c) (star r)

/-- The length of the longest match at the front of a text, of which `n` characters are passed and
`found` is the longest match so far. -/
def longestFrom (atStart : Bool) (r : Regex) (n : Nat) (found : Option Nat) : Text → Option Nat
  | [] => if r.isEmptyAt atStart true then some n else found
  | c :: t =>
    let found := if r.isEmptyAt atStart false then some n else found
    let s := r.after atStart c
    if s = never then found else longestFrom false s (n + 1) found t

def longest? (atStart : Bool) (r : Regex) (t : Text) : Option Nat := r.longestFrom atStart 0 none t

/-- The place and the length of the first match; of those at one place it is the longest. -/
def findFrom (atStart : Bool) (r : Regex) (place : Nat) : Text → Option (Nat × Nat)
  | [] => (r.longest? atStart []).map (place, ·)
  | c :: t =>
    match r.longest? atStart (c :: t) with
    | some n => some (place, n)
    | none => findFrom false r (place + 1) t

def find? (r : Regex) (t : Text) : Option (Nat × Nat) := r.findFrom true 0 t

def isIn (r : Regex) (t : Text) : Bool := (r.find? t).isSome

/-! ## Reading -/

/-- Why a text is no regular expression. -/
inductive Fault
  | missingOperand
  | missingParen
  | badClass
  | repeatedAnchor
deriving DecidableEq, Repr

def Fault.message : Fault → Text
  | missingOperand => "missing operand"
  | missingParen => "missing ')'"
  | badClass => "bad class -- [], [^] or ["
  | repeatedAnchor => "syntax error ^* or ^+"

/-- The character that stands after a backslash, and what follows. -/
def escaped : Text → Option (Char × Text)
  | 'n' :: t => some ('\n', t)
  | 't' :: t => some ('\t', t)
  | 'r' :: t => some ('\r', t)
  | 'a' :: t => some ('\x07', t)
  | 'b' :: t => some ('\x08', t)
  | 'f' :: t => some ('\x0c', t)
  | 'v' :: t => some ('\x0b', t)
  | '"' :: t => some ('"', t)
  | '\\' :: t => some ('\\', t)
  | 'x' :: t =>
    let ds := (t.take 2).takeWhile fun c => (Floating.digitIn? 16 c).isSome
    if ds = [] then none else some (Char.ofNat (Floating.valueIn 16 ds), t.drop ds.length)
  | t =>
    let ds := (t.take 3).takeWhile fun c => (Floating.digitIn? 8 c).isSome
    if ds = [] then none
    else some (Char.ofNat (Floating.valueIn 8 ds % 256), t.drop ds.length)

def classRanges? (name : Text) : Option (List (Char × Char)) :=
  match String.ofList name with
  | "alnum" => some [('0', '9'), ('A', 'Z'), ('a', 'z')]
  | "alpha" => some [('A', 'Z'), ('a', 'z')]
  | "blank" => some [(' ', ' '), ('\t', '\t')]
  | "cntrl" => some [('\x00', '\x1f'), ('\x7f', '\x7f')]
  | "digit" => some [('0', '9')]
  | "graph" => some [('!', '~')]
  | "lower" => some [('a', 'z')]
  | "print" => some [(' ', '~')]
  | "punct" => some [('!', '/'), (':', '@'), ('[', '\x60'), ('\x7b', '~')]
  | "space" => some [(' ', ' '), ('\t', '\r')]
  | "upper" => some [('A', 'Z')]
  | "xdigit" => some [('0', '9'), ('A', 'F'), ('a', 'f')]
  | _ => none

def classChar : Text → Option (Char × Text)
  | [] => none
  | '\\' :: c :: t => some ((escaped (c :: t)).getD (c, t))
  | c :: t => some (c, t)

/-- The ranges of a class up to its closing bracket, and what follows. -/
def classItems (isFirst : Bool) : Nat → Text → Except Fault (List (Char × Char) × Text)
  | 0, _ => .error .badClass
  | fuel + 1, t =>
    match t with
    | ']' :: rest => if isFirst then item fuel t else .ok ([], rest)
    | '[' :: ':' :: rest =>
      let name := rest.takeWhile (· ≠ ':')
      match rest.drop name.length with
      | ':' :: ']' :: rest => do
        match classRanges? name with
        | some ranges =>
          let (more, rest) ← classItems false fuel rest
          .ok (ranges ++ more, rest)
        | none => .error .badClass
      | _ => item fuel t
    | _ => item fuel t
where
  item (fuel : Nat) (t : Text) : Except Fault (List (Char × Char) × Text) := do
    match classChar t with
    | none => .error .badClass
    | some (low, rest) =>
      match rest with
      | '-' :: c :: after =>
        if c = ']' then
          let (more, rest) ← classItems false fuel rest
          .ok ((low, low) :: more, rest)
        else
          let (high, rest) := (classChar (c :: after)).getD (c, after)
          let (more, rest) ← classItems false fuel rest
          .ok ((low, high) :: more, rest)
      | _ =>
        let (more, rest) ← classItems false fuel rest
        .ok ((low, low) :: more, rest)

def classOf (t : Text) : Except Fault (CharSet × Text) := do
  let (isComplement, t) : Bool × Text := match t with
    | '^' :: rest => (true, rest)
    | _ => (false, t)
  let (ranges, rest) ← classItems true (t.length + 1) t
  .ok (⟨isComplement, ranges⟩, rest)

/-- Apply the signs for repetition that follow an expression. -/
def repeated (r : Regex) : Text → Except Fault (Regex × Text)
  | '*' :: t => if r = start then .error .repeatedAnchor else repeated (star r) t
  | '+' :: t => if r = start then .error .repeatedAnchor else repeated (both r (star r)) t
  | '?' :: t => repeated (either r empty) t
  | t => .ok (r, t)

mutual

/-- Choices up to the end, or to a closing parenthesis inside of some. -/
def readChoices (inParens : Bool) : Nat → Text → Except Fault (Regex × Text)
  | 0, _ => .error .missingOperand
  | fuel + 1, t => do
    let (r, rest) ← readSequence inParens fuel none t
    match rest with
    | '|' :: rest => do
      if inParens && rest.head? = some ')' then .ok (either r empty, rest)
      else
        let (s, rest) ← readChoices inParens fuel rest
        .ok (either r s, rest)
    | _ => .ok (r, rest)

/-- Parts one after the other, the first of which may be read already. -/
def readSequence (inParens : Bool) : Nat → Option Regex → Text → Except Fault (Regex × Text)
  | 0, _, _ => .error .missingOperand
  | fuel + 1, before, t => do
    let more (part : Regex) (rest : Text) : Except Fault (Regex × Text) := do
      let (part, rest) ← repeated part rest
      let r := match before with
        | some r => both r part
        | none => part
      readSequence inParens fuel (some r) rest
    let stop : Except Fault (Regex × Text) := match before with
      | some r => .ok (r, t)
      | none => .error (if inParens && t = [] then .missingParen else .missingOperand)
    match t with
    | [] | '|' :: _ => stop
    | '*' :: _ | '+' :: _ | '?' :: _ => .error .missingOperand
    | '(' :: rest => do
      let (r, rest) ← readChoices true fuel rest
      match rest with
      | ')' :: rest => more r rest
      | _ => .error .missingParen
    | ')' :: rest => if inParens then stop else more (one (.single ')')) rest
    | '^' :: rest => more start rest
    | '$' :: rest => more finish rest
    | '.' :: rest => more (one .all) rest
    | '[' :: rest => do
      let (s, rest) ← classOf rest
      more (one s) rest
    | '\\' :: c :: rest =>
      let (c, rest) := (escaped (c :: rest)).getD (c, rest)
      more (one (.single c)) rest
    | c :: rest => more (one (.single c)) rest

end

def ofText? (t : Text) : Except Fault Regex :=
  if t = [] then .ok empty
  else do
    let (r, _) ← readChoices false (2 * t.length + 2) t
    .ok r

end Regex
end Snippetry.Awk
