import Snippetry.Text.Integer
import Snippetry.Utility.Basic

/-! # Programs about the lines of files -/
namespace Snippetry.Utility

def linesOf (t : Text) : List Text :=
  let lines := Text.splitOn '\n' t
  if lines.getLast? = some [] then lines.dropLast else lines

def unlines (ls : List Text) : Text := ls.flatMap (· ++ ['\n'])

/-- The first lines, with their ends as they are. -/
def firstLines : Nat → Text → Text
  | 0, _ => []
  | _ + 1, [] => []
  | n + 1, c :: t => c :: firstLines (if c = '\n' then n else n + 1) t
termination_by _ t => t.length

/-! ## The start and the end of files -/

/-- How much of a file is wanted. -/
structure Amount where
  count : Nat
  inBytes : Bool
  /-- A sign before the count, which turns its sense around. -/
  sign : Option Char

/-- The amount that options such as `-n 3`, `-n3` and `-3` ask for, and the paths. -/
def readAmount (arguments : List Text) : Except Text (Amount × List Text) :=
  match arguments with
  | ('-' :: c :: t) :: rest =>
    if c.isDigit then given 'n' (c :: t) rest
    else if c = 'n' || c = 'c' then
      match t, rest with
      | [], t :: rest => given c t rest
      | t, rest => given c t rest
    else plain arguments
  | _ => plain arguments
where
  plain (arguments : List Text) : Except Text (Amount × List Text) :=
    .ok (⟨10, false, none⟩, arguments.filter (· ≠ ['-', '-']))
  given (kind : Char) (t : Text) (rest : List Text) : Except Text (Amount × List Text) :=
    let (sign, digits) : Option Char × Text := match t with
      | c :: digits => if c = '-' || c = '+' then (some c, digits) else (none, t)
      | [] => (none, [])
    match Text.toNat? digits with
    | some n => .ok (⟨n, kind = 'c', sign⟩, rest)
    | none =>
      let what : Text := if kind = 'c' then "bytes" else "lines"
      .error ("invalid number of " ++ what ++ ": '" ++ t ++ "'")

def showParts (name : Text) (paths : List Text) (part : Nat → Act Text) : Act Nat :=
  let titled := paths.length > 1
  let rec each : List Text → Bool → Nat → Act Nat
    | [], _, status => pure status
    | path :: paths, first, status => do
      match ← openFile path with
      | .ok descriptor =>
        let title : Text := if path = ['-'] then "standard input" else path
        let gap : Text := if first then [] else ['\n']
        if titled then say (gap ++ "==> " ++ title ++ " <==\n")
        say (← part descriptor)
        each paths false status
      | .error reason =>
        complain name ("cannot open '" ++ path ++ "' for reading: " ++ reason)
        each paths first 1
  each (if paths.isEmpty then [['-']] else paths) true 0

/-- The start of a file, of which no more is read than that. -/
def startOf (a : Amount) (descriptor : Nat) : Act Text := do
  if a.sign = some '-' then
    let t := (← Process.readAll descriptor).getD []
    if a.inBytes then pure (t.take (t.length - a.count))
    else pure (firstLines ((linesOf t).length - a.count) t)
  else if a.count = 0 then pure []
  else
    let part (t : Text) : Text := if a.inBytes then t.take a.count else firstLines a.count t
    let isFull (t : Text) : Bool :=
      if a.inBytes then t.length = a.count else t.count '\n' = a.count
    pure ((← Process.readSome descriptor fun t =>
      if isFull (part t) then some (part t).length else none).getD [])

def endOf (a : Amount) (descriptor : Nat) : Act Text := do
  let t := (← Process.readAll descriptor).getD []
  let skipped (length : Nat) : Nat :=
    if a.sign = some '+' then a.count - 1 else length - a.count
  if a.inBytes then pure (t.drop (skipped t.length))
  else pure (t.drop (firstLines (skipped (linesOf t).length) t).length)

def part (select : Amount → Nat → Act Text) : Tool := fun name arguments => do
  match readAmount arguments with
  | .error message =>
    complain name message
    pure 1
  | .ok (a, paths) => showParts name paths (select a)

def head : Tool := part startOf

def tail : Tool := part endOf

/-! ## Order -/

def insertLine (before : Text → Text → Bool) (line : Text) : List Text → List Text
  | [] => [line]
  | l :: ls => if before line l then line :: l :: ls else l :: insertLine before line ls

def sortLines (before : Text → Text → Bool) (ls : List Text) : List Text :=
  ls.foldl (fun sorted l => insertLine before l sorted) []

def uniqueLines : List Text → List Text
  | a :: b :: ls => if a = b then uniqueLines (b :: ls) else a :: uniqueLines (b :: ls)
  | ls => ls

def leadingNumber (t : Text) : Float :=
  let t := t.dropWhile Floating.isSpace
  let (negative, t) : Bool × Text := match t with
    | '-' :: t => (true, t)
    | t => (false, t)
  match Floating.scan? 10 1 [] t with
  | some s =>
    let x := Floating.ofDecimal s.value s.scale
    if negative then -x else x
  | none => 0

def sort : Tool := fun name arguments =>
  let options := arguments.takeWhile fun a => a.head? = some '-' && a.length > 1
  let has (c : Char) := options.any fun o => c ∈ o
  let less (a b : Text) : Bool :=
    if has 'n' then
      let x := leadingNumber a
      let y := leadingNumber b
      x < y || (x == y && a < b)
    else a < b
  let before (a b : Text) : Bool := if has 'r' then less b a else less a b
  onFiles name (arguments.drop options.length) fun t =>
    let sorted := sortLines before (linesOf t)
    unlines (if has 'u' then uniqueLines sorted else sorted)

def uniq : Tool := fun name arguments =>
  onFiles name arguments fun t => unlines (uniqueLines (linesOf t))

def tac : Tool := fun name arguments => onFiles name arguments fun t => unlines (linesOf t).reverse

def rev : Tool := fun name arguments =>
  onFiles name arguments fun t => unlines ((linesOf t).map List.reverse)

/-! ## Counts and characters -/

def wordCount (t : Text) : Nat :=
  ((t.foldl (fun (n, inWord) c =>
    if Floating.isSpace c then (n, false) else (if inWord then n else n + 1, true)) (0, false)) :
    Nat × Bool).1

def wc : Tool := fun name arguments =>
  let count : Text → Nat := match arguments.head? with
    | some ['-', 'l'] => fun t => t.count '\n'
    | some ['-', 'w'] => wordCount
    | _ => List.length
  onFiles name arguments.tail fun t => Text.ofNat (count t) ++ ['\n']

/-- The characters of a set such as `a-z`. -/
def charRange : Text → Text
  | a :: '-' :: b :: t =>
    (List.range (b.toNat + 1 - a.toNat)).map (fun n => Char.ofNat (a.toNat + n)) ++ charRange t
  | '\\' :: 'n' :: t => '\n' :: charRange t
  | c :: t => c :: charRange t
  | [] => []

def translate (start target : Text) (c : Char) : Char :=
  match start.findIdx? (· = c) with
  | some n => (target[n]? <|> target.getLast?).getD c
  | none => c

def tr : Tool := fun name arguments => do
  match arguments with
  | [['-', 'd'], set] =>
    let t := (← Process.readAll 0).getD []
    say (t.filter fun c => c ∉ charRange set)
    pure 0
  | [a, b] =>
    let t := (← Process.readAll 0).getD []
    say (t.map (translate (charRange a) (charRange b)))
    pure 0
  | _ => refuse name "missing operand" 1

end Snippetry.Utility
