import Snippetry.Text.Conversion
import Snippetry.Text.Integer

/-! # Escapes and formats: the texts of `echo` and `printf` -/
namespace Snippetry.Shell

def isOctal (c : Char) : Bool := '0' ≤ c && c ≤ '7'

def simpleEscape? : Char → Option Char
  | 'a' => some '\x07'
  | 'b' => some '\x08'
  | 'e' => some '\x1b'
  | 'f' => some '\x0c'
  | 'n' => some '\n'
  | 'r' => some '\r'
  | 't' => some '\t'
  | 'v' => some '\x0b'
  | '\\' => some '\\'
  | _ => none

/-- The character of an escape after its backslash, and how long the escape is. What is no escape
leaves the backslash alone. -/
def escape (t : Text) : Char × Nat :=
  match t with
  | [] => ('\\', 0)
  | c :: _ =>
    let digits := (t.take 3).takeWhile isOctal
    if digits ≠ [] then (Char.ofNat (Floating.valueIn 8 digits % 256), digits.length)
    else match simpleEscape? c with
      | some d => (d, 1)
      | none => ('\\', 0)

/-- Replace the escapes of an argument. Octal digits may follow a zero, and `\c` ends all output; the
second result tells whether it was met. -/
def unescape : Nat → Text → Text × Bool
  | 0, t => (t, false)
  | fuel + 1, t =>
    match t with
    | [] => ([], false)
    | '\\' :: 'c' :: _ => ([], true)
    | '\\' :: rest =>
      let rest := match rest with
        | '0' :: d :: after => if isOctal d then d :: after else rest
        | _ => rest
      let (c, length) := escape rest
      let (t, stop) := unescape fuel (rest.drop length)
      (c :: t, stop)
    | c :: rest =>
      let (t, stop) := unescape fuel rest
      (c :: t, stop)

def unescaped (t : Text) : Text × Bool := unescape (t.length + 1) t

def echoWords (newline : Bool) : List Text → Text
  | [] => if newline then ['\n'] else []
  | [t] =>
    let (t, stop) := unescaped t
    if newline && !stop then t ++ ['\n'] else t
  | t :: ts =>
    let (t, stop) := unescaped t
    if stop then t else t ++ ' ' :: echoWords newline ts

def echoText (arguments : List Text) : Text :=
  match arguments with
  | ['-', 'n'] :: words => echoWords false words
  | words => echoWords true words

/-! ## Numbers in arguments -/

def outOfRange : Text := "Numerical result out of range"

/-- What is wrong with an argument that should be a number, of which `rest` was not read. -/
def conversionFault (t : Text) (rest : Option Text) : List Text :=
  match rest with
  | none => if t = [] then [] else [t ++ ": expected numeric value"]
  | some [] => []
  | some _ => [t ++ ": not completely converted"]

def quotedCharacter? (t : Text) : Option Nat :=
  match t with
  | '"' :: rest => some ((rest.head?.map Char.toNat).getD 0)
  | '\'' :: rest => some ((rest.head?.map Char.toNat).getD 0)
  | _ => none

def wholeArgument (signed : Bool) (t : Text) : Int × List Text :=
  match quotedCharacter? t with
  | some n => (n, [])
  | none =>
    match Integer.leading? none t with
    | none => (0, conversionFault t none)
    | some (n, rest) =>
      let inRange := if signed then Integer.isInRange n else n.natAbs < 18446744073709551616
      let value :=
        if inRange then n else if signed then Integer.clamp n else 18446744073709551615
      let fault := if rest = [] && !inRange then [t ++ ": " ++ outOfRange] else []
      (value, conversionFault t (some rest) ++ fault)

def floatingArgument (t : Text) : Float × List Text :=
  match quotedCharacter? t with
  | some n => (Float.ofNat n, [])
  | none =>
    match Floating.leading? t with
    | none => (0, conversionFault t none)
    | some (x, rest) =>
      let overflows := x.isInf && t.any Char.isDigit
      let digits := t.takeWhile fun c => c ≠ 'e' && c ≠ 'E'
      let underflows := x.abs < 2.2250738585072014e-308 && digits.any fun c => '1' ≤ c && c ≤ '9'
      let fault := if rest = [] && (overflows || underflows) then [t ++ ": " ++ outOfRange] else []
      (x, conversionFault t (some rest) ++ fault)

/-! ## Formats -/

structure Formatted where
  text : Text
  /-- What is wrong with arguments. -/
  faults : List Text
  /-- Why it went no further. -/
  failure : Option Text
  stopped : Bool
  arguments : List Text

namespace Formatted

def before (written : Text) (faults : List Text) (f : Formatted) : Formatted :=
  { f with text := written ++ f.text, faults := faults ++ f.faults }

end Formatted

/-- A number or a star in a conversion. A star takes an argument. -/
def amount (t : Text) (arguments : List Text) : Int × List Text × Text × List Text :=
  match t with
  | '*' :: rest =>
    let (n, faults) := match arguments with
      | a :: _ => wholeArgument true a
      | [] => (0, [])
    (n, faults, rest, arguments.tail)
  | _ =>
    let digits := t.takeWhile Char.isDigit
    ((Text.toNat? digits).getD 0, [], t.drop digits.length, arguments)

/-- What a conversion makes of an argument, what is wrong with it, and whether all output ends. -/
def convert (c : Conversion) (argument : Text) : Option (Text × List Text × Bool) :=
  if c.kind = 's' then some (c.text argument, [], false)
  else if c.kind = 'b' then
    let (t, stop) := unescaped argument
    some (c.text t, [], stop)
  else if c.kind = 'c' then some (c.pad [argument.headD '\x00'], [], false)
  else if c.kind = 'd' || c.kind = 'i' then
    let (n, faults) := wholeArgument true argument
    some (c.signed n, faults, false)
  else if (['o', 'u', 'x', 'X'] : Text).contains c.kind then
    let (n, faults) := wholeArgument false argument
    some (c.unsigned (n % 18446744073709551616).toNat, faults, false)
  else if (['a', 'A', 'e', 'E', 'f', 'F', 'g', 'G'] : Text).contains c.kind then
    let (x, faults) := floatingArgument argument
    some (c.floating x, faults, false)
  else none

def formatOnce : Nat → Text → List Text → Formatted
  | 0, _, arguments => ⟨[], [], none, false, arguments⟩
  | fuel + 1, t, arguments =>
    match t with
    | [] => ⟨[], [], none, false, arguments⟩
    | '%' :: '%' :: rest => (formatOnce fuel rest arguments).before ['%'] []
    | '%' :: rest =>
      let flags := rest.takeWhile Conversion.isFlag
      let (width, faults, after, arguments) := amount (rest.drop flags.length) arguments
      let c := (Conversion.ofFlags flags).withWidth width
      let (c, faults, after, arguments) : Conversion × List Text × Text × List Text :=
        match after with
        | '.' :: after =>
          let (precision, more, after, arguments) := amount after arguments
          (c.withPrecision precision, faults ++ more, after, arguments)
        | _ => (c, faults, after, arguments)
      match after with
      | [] => ⟨[], faults, some "missing format character", true, arguments⟩
      | kind :: after =>
        match convert { c with kind } (arguments.headD []) with
        | none =>
          let directive := '%' :: rest.take (rest.length - after.length)
          ⟨[], faults, some (directive ++ ": invalid directive"), true, arguments⟩
        | some (written, more, stop) =>
          if stop then ⟨written, faults ++ more, none, true, arguments.tail⟩
          else (formatOnce fuel after arguments.tail).before written (faults ++ more)
    | '\\' :: rest =>
      let (c, length) := escape rest
      (formatOnce fuel (rest.drop length) arguments).before [c] []
    | c :: rest => (formatOnce fuel rest arguments).before [c] []

/-- Go through a format as often as it takes to use up the arguments. -/
def format : Nat → Text → List Text → Formatted
  | 0, _, arguments => ⟨[], [], none, true, arguments⟩
  | fuel + 1, t, arguments =>
    let f := formatOnce (t.length + 1) t arguments
    if f.stopped || f.arguments = [] || f.arguments.length = arguments.length then f
    else (format fuel t f.arguments).before f.text f.faults

/-- The arguments of `printf` as a format and what it is applied to. -/
def formatted (t : Text) (arguments : List Text) : Formatted :=
  format (arguments.length + 1) t arguments

end Snippetry.Shell
