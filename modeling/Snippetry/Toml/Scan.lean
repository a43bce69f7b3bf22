import Snippetry.Text.Basic

/-! # The words of TOML: blanks, strings and keys

A scanner takes a word from the front of a text and returns what follows it. -/
namespace Snippetry.Toml

abbrev Scanner (α : Type) := Text → Option (α × Text)

def isSpace (c : Char) : Bool := c = ' ' ∨ c = '\t'

def skipSpaces (t : Text) : Text := t.dropWhile isSpace

/-- Comments hold printable characters and tabs. -/
def isCommentChar (c : Char) : Bool := c = '\t' ∨ (' ' ≤ c ∧ c ≠ '\x7f')

def newline? : Text → Option Text
  | '\n' :: t => some t
  | '\r' :: '\n' :: t => some t
  | _ => none

def skipComment : Text → Text
  | '#' :: t => t.dropWhile isCommentChar
  | t => t

/-- What follows the end of a line, which may come after blanks and a comment. -/
def lineEnd? (t : Text) : Option Text :=
  match skipComment (skipSpaces t) with
  | [] => some []
  | t => newline? t

/-- Skip blanks, line ends and comments; a comment that is begun has to end with its line. -/
def skipLines? (inComment : Bool) : Text → Option Text
  | '\n' :: t => skipLines? false t
  | '\r' :: '\n' :: t => skipLines? false t
  | c :: t =>
    if inComment then if isCommentChar c then skipLines? true t else none
    else if isSpace c then skipLines? false t
    else if c = '#' then skipLines? true t
    else some (c :: t)
  | [] => if inComment then none else some []

def expect? (c : Char) : Text → Option Text
  | d :: t => if d = c then some t else none
  | [] => none

/-! ## Strings -/

def hexDigit? (c : Char) : Option Nat :=
  if '0' ≤ c ∧ c ≤ '9' then some (c.toNat - '0'.toNat)
  else if 'a' ≤ c ∧ c ≤ 'f' then some (c.toNat - 'a'.toNat + 10)
  else if 'A' ≤ c ∧ c ≤ 'F' then some (c.toNat - 'A'.toNat + 10)
  else none

/-- The character with the number that the hexadecimal digits say. -/
def hexChar? (digits : Text) : Option Char := do
  let n ← digits.foldlM (fun acc c => do pure (16 * acc + (← hexDigit? c))) 0
  if n.isValidChar then some (Char.ofNat n) else none

def escape? : Char → Option Char
  | 'b' => some '\x08'
  | 't' => some '\t'
  | 'n' => some '\n'
  | 'f' => some '\x0c'
  | 'r' => some '\r'
  | '"' => some '"'
  | '\\' => some '\\'
  | _ => none

def cons (c : Char) : Option (Text × Text) → Option (Text × Text) :=
  Option.map fun (t, rest) => (c :: t, rest)

/-- A string between double quotes, after the first. -/
def basicString : Scanner Text
  | '"' :: t => some ([], t)
  | '\\' :: 'u' :: a :: b :: c :: d :: t => do cons (← hexChar? [a, b, c, d]) (basicString t)
  | '\\' :: 'U' :: a :: b :: c :: d :: e :: f :: g :: h :: t => do
    cons (← hexChar? [a, b, c, d, e, f, g, h]) (basicString t)
  | '\\' :: c :: t => do cons (← escape? c) (basicString t)
  | c :: t => if isCommentChar c then cons c (basicString t) else none
  | [] => none

/-- A string between single quotes, after the first. -/
def literalString : Scanner Text
  | '\'' :: t => some ([], t)
  | c :: t => if isCommentChar c then cons c (literalString t) else none
  | [] => none

/-- How a string of several lines goes on: after a backslash at the end of a line, blanks and
further line ends do not belong to the string. -/
inductive Gap
  | none
  /-- Blanks after a backslash, before the line end. -/
  | beforeEnd
  | afterEnd
deriving DecidableEq, Repr

/-- A string of several lines, after three double quotes. Up to two quotes may stand before the
three that end it. A line end is a newline, however it is written. -/
def longBasicString : Gap → Scanner Text
  | .none, '"' :: '"' :: '"' :: '"' :: '"' :: t => some ("\"\"", t)
  | .none, '"' :: '"' :: '"' :: '"' :: t => some ("\"", t)
  | .none, '"' :: '"' :: '"' :: t => some ([], t)
  | .none, '\\' :: 'u' :: a :: b :: c :: d :: t => do
    cons (← hexChar? [a, b, c, d]) (longBasicString .none t)
  | .none, '\\' :: 'U' :: a :: b :: c :: d :: e :: f :: g :: h :: t => do
    cons (← hexChar? [a, b, c, d, e, f, g, h]) (longBasicString .none t)
  | .none, '\\' :: c :: t =>
    match escape? c with
    | some d => cons d (longBasicString .none t)
    | none => longBasicString .beforeEnd (c :: t)
  | .none, '\r' :: '\n' :: t => cons '\n' (longBasicString .none t)
  | .none, c :: t => if c = '\n' ∨ isCommentChar c then cons c (longBasicString .none t) else none
  | .none, [] => none
  | .beforeEnd, '\r' :: '\n' :: t => longBasicString .afterEnd t
  | .beforeEnd, '\n' :: t => longBasicString .afterEnd t
  | .beforeEnd, c :: t => if isSpace c then longBasicString .beforeEnd t else none
  | .beforeEnd, [] => none
  | .afterEnd, '\r' :: '\n' :: t => longBasicString .afterEnd t
  | .afterEnd, '\n' :: t => longBasicString .afterEnd t
  | .afterEnd, c :: t =>
    if isSpace c then longBasicString .afterEnd t else longBasicString .none (c :: t)
  | .afterEnd, [] => none
termination_by gap t => (t.length, if gap = .none then 0 else 1)

/-- A string of several lines without escapes, after three single quotes. -/
def longLiteralString : Scanner Text
  | '\'' :: '\'' :: '\'' :: '\'' :: '\'' :: t => some ("''", t)
  | '\'' :: '\'' :: '\'' :: '\'' :: t => some ("'", t)
  | '\'' :: '\'' :: '\'' :: t => some ([], t)
  | '\r' :: '\n' :: t => cons '\n' (longLiteralString t)
  | c :: t => if c = '\n' ∨ isCommentChar c then cons c (longLiteralString t) else none
  | [] => none

/-- A line end right after the opening quotes does not belong to the string. -/
def skipFirstNewline (t : Text) : Text := (newline? t).getD t

def string? : Scanner Text
  | '"' :: '"' :: '"' :: t => longBasicString .none (skipFirstNewline t)
  | '\'' :: '\'' :: '\'' :: t => longLiteralString (skipFirstNewline t)
  | '"' :: t => basicString t
  | '\'' :: t => literalString t
  | _ => none

/-! ## Keys -/

def isKeyChar (c : Char) : Bool := c.isAlphanum || c = '-' || c = '_'

/-- A part of a key: quoted on one line, or of letters, digits, `-` and `_`. -/
def keyPart? : Scanner Text
  | '"' :: t => basicString t
  | '\'' :: t => literalString t
  | t =>
    let part := t.takeWhile isKeyChar
    if part = [] then none else some (part, t.drop part.length)

def keyParts? : Nat → Scanner (List Text)
  | 0, _ => none
  | limit + 1, t => do
    let (part, t) ← keyPart? (skipSpaces t)
    match skipSpaces t with
    | '.' :: t =>
      let (parts, t) ← keyParts? limit t
      some (part :: parts, t)
    | t => some ([part], t)

/-- The parts before the last one, and the last one. -/
def key? : Scanner (List Text × Text) := fun t => do
  let (parts, t) ← keyParts? 79 t
  some ((parts.dropLast, ← parts.getLast?), t)

end Snippetry.Toml
