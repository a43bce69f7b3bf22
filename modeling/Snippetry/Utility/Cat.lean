import Snippetry.Utility.Basic

/-! # `cat`: files one after the other, with numbers and visible characters if asked for -/
namespace Snippetry.Utility.Cat

structure Options where
  numbers : Bool
  /-- Numbers for lines only that are not empty. -/
  numbersFilled : Bool
  /-- Of several empty lines only one is shown. -/
  squeezes : Bool
  ends : Bool
  tabs : Bool
  controls : Bool

namespace Options

def none : Options := ⟨false, false, false, false, false, false⟩

def isPlain (o : Options) : Bool :=
  !(o.numbers || o.squeezes || o.ends || o.tabs || o.controls)

end Options

/-- What is known of the text so far. -/
structure Progress where
  number : Nat
  /-- How many line ends there were last; `none` within a line. -/
  lineEnds : Option Nat
  /-- Whether a return is held back, because a line end may follow. -/
  hasReturn : Bool

def Progress.start : Progress := ⟨0, some 0, false⟩

def numberText (n : Nat) : Text := Text.padLeft ' ' 6 (Text.ofNat n) ++ ['\t']

/-- A character other than a line end. -/
def visible (o : Options) (c : Char) : Text :=
  if c = '\t' then if o.tabs then "^I" else [c]
  else if !o.controls then [c]
  else
    let low (n : Nat) : Text :=
      if n < 32 then ['^', Char.ofNat (n + 64)] else if n = 127 then "^?" else [Char.ofNat n]
    if c.toNat < 128 then low c.toNat else "M-" ++ low (c.toNat - 128)

def showChar (o : Options) (p : Progress) (c : Char) : Text × Progress :=
  if c = '\n' then
    let count := match p.lineEnds with
      | some n => n + 1
      | none => 0
    if 2 ≤ count && o.squeezes then ([], { p with lineEnds := some 2 })
    else
      let isNumbered := 1 ≤ count && o.numbers && !o.numbersFilled
      let number := if isNumbered then p.number + 1 else p.number
      let shown : Text := if isNumbered then numberText number else []
      let held : Text := if p.hasReturn then "^M" else []
      (shown ++ held ++ (if o.ends then "$\n" else "\n"), ⟨number, some (min count 2), false⟩)
  else
    let held : Text := if p.hasReturn then ['\r'] else []
    let isNumbered := p.lineEnds.isSome && o.numbers
    let number := if isNumbered then p.number + 1 else p.number
    let shown : Text := if isNumbered then numberText number else []
    if c = '\r' && o.ends && !o.controls then (held ++ shown, ⟨number, none, true⟩)
    else (held ++ shown ++ visible o c, ⟨number, none, false⟩)

def showText (o : Options) : Progress → Text → Text × Progress
  | p, [] => ([], p)
  | p, c :: t =>
    let (shown, p) := showChar o p c
    let (rest, p) := showText o p t
    (shown ++ rest, p)

/-! ## Options -/

def setLetter (o : Options) : Char → Option Options
  | 'n' => some { o with numbers := true }
  | 'b' => some { o with numbers := true, numbersFilled := true }
  | 's' => some { o with squeezes := true }
  | 'E' => some { o with ends := true }
  | 'T' => some { o with tabs := true }
  | 'v' => some { o with controls := true }
  | 'e' => some { o with ends := true, controls := true }
  | 't' => some { o with tabs := true, controls := true }
  | 'A' => some { o with ends := true, tabs := true, controls := true }
  | 'u' => some o
  | _ => none

def longOptions : List (Text × Char) :=
  [("number-nonblank", 'b'), ("number", 'n'), ("squeeze-blank", 's'), ("show-nonprinting", 'v'),
   ("show-ends", 'E'), ("show-tabs", 'T'), ("show-all", 'A'), ("help", 'h'), ("version", 'V')]

/-- The letter of an option that is spelled out, or begun as no other one. -/
def letterOf (t : Text) : Except Text Char :=
  let name := t.takeWhile (· ≠ '=')
  let found := match longOptions.find? fun (n, _) => n = name with
    | some option => [option]
    | none => longOptions.filter fun (n, _) => name.isPrefixOf n
  match found with
  | [] => .error ("unrecognized option '--" ++ t ++ "'")
  | [(n, c)] =>
    if name.length < t.length then .error ("option '--" ++ n ++ "' doesn't allow an argument")
    else .ok c
  | several =>
    let names : Text := several.flatMap fun (n, _) => " '--".toList ++ n ++ ['\'']
    .error ("option '--" ++ t ++ "' is ambiguous; possibilities:" ++ names)

/-- The options and the paths among the arguments. Options may follow paths. -/
def readArguments (o : Options) : List Text → Except Text (Options × List Text)
  | [] => .ok (o, [])
  | ['-', '-'] :: rest => .ok (o, rest)
  | ('-' :: '-' :: name) :: rest => do
    readArguments ((setLetter o (← letterOf name)).getD o) rest
  | ('-' :: c :: letters) :: rest => do
    readArguments (← (c :: letters).foldlM (fun o c => match setLetter o c with
      | some o => .ok o
      | none => .error ("invalid option -- '" ++ [c] ++ "'")) o) rest
  | path :: rest => do
    let (o, paths) ← readArguments o rest
    .ok (o, path :: paths)

/-! ## Files -/

/-- Whether a file is what is written to, and there is something in it to read. -/
def isOutput (p : Process) (descriptor : Nat) : Bool :=
  match p.opening? descriptor, p.opening? 1 with
  | some (.file names position _ _), some (.file target _ _ _) =>
    names = target && position < (p.content names).length
  | _, _ => false

def copy (o : Options) (descriptor : Nat) : Nat → Progress → Act Progress
  | 0, progress => pure progress
  | fuel + 1, progress => do
    match ← Process.readBlock descriptor 131072 with
    | some (c :: t) =>
      let (shown, progress) :=
        if o.isPlain then (c :: t, progress) else showText o progress (c :: t)
      say shown
      copy o descriptor fuel progress
    | _ => pure progress

def blocks : Nat := 1000000

def copyAll (name : Text) (o : Options) : List Text → Progress → Nat → Act Nat
  | [], progress, status => do
    if progress.hasReturn then say ['\r']
    pure status
  | path :: paths, progress, status => do
    match ← openFile path with
    | .error reason =>
      complain name (FileName.quoted path ++ ": " ++ reason)
      if path = ['-'] && reason = ("Bad file descriptor" : Text) then
        complain name ("closing standard input: " ++ reason)
      copyAll name o paths progress 1
    | .ok descriptor =>
      if isOutput (← get) descriptor then
        complain name (FileName.quoted path ++ ": input file is output file")
        copyAll name o paths progress 1
      else
        let progress ← copy o descriptor blocks progress
        copyAll name o paths progress status

def tool : Tool := fun name arguments => do
  match readArguments .none arguments with
  | .error message => refuse name message 1
  | .ok (o, paths) =>
    if ((← get).descriptors.lookup 1).isNone then
      complain name "standard output: Bad file descriptor"
      pure 1
    else copyAll name o (if paths.isEmpty then [['-']] else paths) .start 0

end Snippetry.Utility.Cat
