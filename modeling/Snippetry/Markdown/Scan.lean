import Snippetry.Text.Basic

/-! # What a line can start with

Recognizers for the beginnings of Markdown blocks. Each looks at the rest of the source and returns
how many characters it takes; a line may end with `\n`, `\r\n` or a lone `\r`. -/
namespace Snippetry.Markdown

def isInlineBlank (c : Char) : Bool := c == ' ' || c == '\t' || c == '\x0b' || c == '\x0c'

def isAsciiBlank (c : Char) : Bool := isInlineBlank c || c == '\n' || c == '\r'

def isPunctuation (c : Char) : Bool :=
  (0x21 ≤ c.toNat && c.toNat ≤ 0x7E) && !c.isAlphanum

/-- The length of the leading run of characters that satisfy `p`. -/
def run (p : Char → Bool) (t : Text) : Nat := (t.takeWhile p).length

/-- The end of the source ends a line too. -/
def lineEnd? : Text → Option Nat
  | [] => some 0
  | '\n' :: _ => some 1
  | '\r' :: '\n' :: _ => some 2
  | '\r' :: _ => some 1
  | _ => none

def blankLine? (t : Text) : Option Nat :=
  let blanks := run isInlineBlank t
  (lineEnd? (t.drop blanks)).map (blanks + ·)

def lineLength : Text → Nat
  | [] => 0
  | c :: t => if c = '\n' then 1 else 1 + lineLength t

/-- Up to and with the next line end of any kind. -/
def visibleLineLength : Text → Nat
  | [] => 0
  | c :: t =>
    match lineEnd? (c :: t) with
    | some n => n
    | none => 1 + visibleLineLength t

def thematicBreak? : Text → Option Nat
  | [] => none
  | c :: t =>
    let line := (c :: t).takeWhile fun d => d != '\n' && d != '\r'
    if (c == '*' || c == '-' || c == '_') && line.all (fun d => d == c || d == ' ' || d == '\t')
        && 3 ≤ line.count c then
      some (line.length + (lineEnd? ((c :: t).drop line.length)).getD 0)
    else none

/-- One to six number signs before a blank or the end. -/
def heading? (t : Text) : Option Nat :=
  let level := run (· == '#') t
  let ends := match t.drop level with
    | [] => true
    | c :: _ => isAsciiBlank c
  if ends && 1 ≤ level && level ≤ 6 then some level else none

def underline? : Text → Option Nat
  | [] => none
  | c :: t =>
    if c == '=' || c == '-' then
      let length := 1 + run (· == c) t
      (blankLine? ((c :: t).drop length)).map (length + ·)
    else none

/-- Three or more backticks without another one on the line, or three or more tildes. -/
def codeFence? : Text → Option (Nat × Char)
  | [] => none
  | c :: t =>
    if c == '\x60' || c == '~' then
      let length := 1 + run (· == c) t
      let rest := (c :: t).drop length
      if length < 3 || (c == '\x60' && (rest.take (lineLength rest)).contains c) then none
      else some (length, c)
    else none

/-- At least `length` fence characters, then spaces; the end of the source closes as well. -/
def closingFence? (c : Char) (length : Nat) (t : Text) : Option Nat :=
  if t = [] then some 0
  else
    let marks := run (· == c) t
    let taken := marks + run (· == ' ') (t.drop marks)
    if marks < length then none else (lineEnd? (t.drop taken)).map fun _ => taken

structure ListMarker where
  length : Nat
  /-- The last character, by which lists are told apart. -/
  mark : Char
  /-- Bullets and the number one may interrupt a paragraph. -/
  interrupting : Bool
deriving Repr

/-- A bullet, or up to nine digits and a delimiter. -/
def listMarker? : Text → Option ListMarker
  | [] => none
  | c :: t =>
    if c == '-' || c == '+' || c == '*' then some ⟨1, c, true⟩
    else
      let digits := ((c :: t).take 9).takeWhile Char.isDigit
      match digits, (c :: t).drop digits.length with
      | [], _ => none
      | _, d :: _ =>
        if d == '.' || d == ')' then some ⟨digits.length + 1, d, Text.toNat? digits == some 1⟩
        else none
      | _, [] => none

/-- Whether a list item starts here that ends an open paragraph. In the container of the paragraph
it has to have something on its line. -/
def startsItem (t : Text) (sameContainer : Bool) : Bool :=
  match listMarker? t with
  | none => false
  | some marker =>
    match t.drop marker.length with
    | ' ' :: rest | '\t' :: rest =>
      !sameContainer || (marker.interrupting && (blankLine? rest).isNone)
    | rest => (lineEnd? rest).isSome && !sameContainer

end Snippetry.Markdown
