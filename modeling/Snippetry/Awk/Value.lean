import Snippetry.Text.Conversion
import Snippetry.Text.Integer

/-! # Values, and how they are shown

A value is a number, a text, or both where a text that was read looks like a number. -/
namespace Snippetry.Awk

inductive Value
  | unset
  | number (x : Float)
  | text (t : Text)
  /-- A text that was read, which counts as a number if it looks like one. -/
  | input (t : Text)

def truncated (x : Float) : Int := x.toInt64.toInt

def isWhole (x : Float) : Bool := x == x.floor && x.abs < 9007199254740992

/-- What is left of a number after whole multiples of another one; the sign is that of the first. -/
def remainder (x y : Float) : Float :=
  if x.isNaN || y.isNaN || x.isInf || y == 0 then Floating.notANumber
  else if y.isInf then x
  else if isWhole x && isWhole y then Float.ofInt ((truncated x).tmod (truncated y))
  else
    let p := Floating.magnitude x
    let q := Floating.magnitude y
    let rest := (p.numerator * q.denominator) % (q.numerator * p.denominator)
    let rest := Floating.ofBinary rest (-((p.denominator * q.denominator).log2 : Int))
    if Floating.isNegative x then -rest else rest

/-- The number that a text begins with; none is zero. -/
def leadingNumber (t : Text) : Float :=
  match Floating.leading? t with
  | some (x, _) => x
  | none => 0

/-- The number that a text looks like. -/
def numberOf? (t : Text) : Option Float :=
  let t := ((t.dropWhile Floating.isSpace).reverse.dropWhile Floating.isSpace).reverse
  let begins := t.head?.any fun c => c.isDigit || c = '+' || c = '-' || c = '.'
  let ends := t.getLast?.any fun c => c.isDigit || c = '.'
  if begins && ends then
    match Floating.leading? t with
    | some (x, []) => if x.isInf then none else some x
    | _ => none
  else none

namespace Value

def ofTruth (b : Bool) : Value := .number (if b then 1 else 0)

def toNumber : Value → Float
  | unset => 0
  | number x => x
  | text t | input t => leadingNumber t

/-- The number that a value is, if it is no mere text. -/
def number? : Value → Option Float
  | unset => some 0
  | number x => some x
  | text _ => none
  | input t => numberOf? t

def isTrue : Value → Bool
  | unset => false
  | number x => x != 0
  | text t => t ≠ []
  | input t => match numberOf? t with
    | some x => x != 0
    | none => t ≠ []

end Value

/-! ## Formats -/

/-- Why a format cannot be applied. -/
inductive FormatFault
  | tooFewValues
  /-- The conversion with this number is none. -/
  | improper (number : Nat)

/-- A number or a star in a conversion. A star takes a value. -/
def amount (t : Text) (values : List Value) : Except FormatFault (Int × Text × List Value) :=
  match t with
  | '*' :: rest =>
    match values with
    | v :: values => .ok (truncated v.toNumber, rest, values)
    | [] => .error .tooFewValues
  | _ =>
    let digits := t.takeWhile Char.isDigit
    .ok ((Text.toNat? digits).getD 0, t.drop digits.length, values)

/-- A conversion after its sign, the value it is for, and what follows. -/
def conversion? (index : Nat) (t : Text) (values : List Value) :
    Except FormatFault (Conversion × Value × Text × List Value) := do
  let flags := t.takeWhile Conversion.isFlag
  let (width, t, values) ← amount (t.drop flags.length) values
  let c := (Conversion.ofFlags flags).withWidth width
  let (c, t, values) ← match t with
    | '.' :: t => do
      let (precision, t, values) ← amount t values
      .ok (c.withPrecision precision, t, values)
    | _ => .ok (c, t, values)
  match values with
  | [] => .error .tooFewValues
  | v :: values =>
    match t.dropWhile fun c => c = 'l' || c = 'h' with
    | kind :: t => .ok ({ c with kind }, v, t, values)
    | [] => .error (.improper index)

/-- A number of the system that is no number has a sign. -/
def showFloating (c : Conversion) (x : Float) : Text :=
  if x.isNaN then c.pad (if c.kind.isUpper then "-NAN" else "-nan") else c.floating x

/-- A number in a conversion for numbers; `none` if it is none. -/
def showNumber? (c : Conversion) (x : Float) : Option Text :=
  let n := if x.isNaN then Integer.least else truncated x
  if c.kind = 'd' || c.kind = 'i' then some (c.signed n)
  else if (['o', 'u', 'x', 'X'] : Text).contains c.kind then
    some (c.unsigned (n % 18446744073709551616).toNat)
  else if (['e', 'E', 'f', 'F', 'g', 'G'] : Text).contains c.kind then some (showFloating c x)
  else none

def showWith (x : Float) : Nat → Text → Text
  | 0, _ => []
  | fuel + 1, t =>
    match t with
    | [] => []
    | '%' :: '%' :: rest => '%' :: showWith x fuel rest
    | '%' :: rest =>
      match conversion? 0 rest [.number x] with
      | .ok (c, _, rest, _) => (showNumber? c x).getD [] ++ showWith x fuel rest
      | .error _ => []
    | c :: rest => c :: showWith x fuel rest

/-- Beyond these, whole numbers are shown as all others. -/
def mostWhole : Float := 2147483647

/-- A number as text; those that are not whole are shown with a format. -/
def numberText (format : Text) (x : Float) : Text :=
  if isWhole x && x.abs ≤ mostWhole then Integer.toText (truncated x)
  else showWith x (format.length + 1) format

def Value.toText (format : Text) : Value → Text
  | unset => []
  | number x => numberText format x
  | text t | input t => t

def convert? (format : Text) (c : Conversion) (v : Value) : Option Text :=
  if c.kind = 's' then some (c.text (v.toText format))
  else if c.kind = 'c' then
    match v with
    | .unset => some (c.pad ['\x00'])
    | .text t => some (c.pad [t.headD '\x00'])
    | .number x => some (c.pad [Char.ofNat (truncated x % 256).toNat])
    | .input t =>
      match numberOf? t with
      | some x => some (c.pad [Char.ofNat (truncated x % 256).toNat])
      | none => some (c.pad [t.headD '\x00'])
  else showNumber? c v.toNumber

/-- What a format makes of values, and why it went no further. Numbers become texts with a format of
their own. -/
def formatted (numbers : Text) : Nat → Nat → Text → List Value → Text × Option FormatFault
  | 0, _, _, _ => ([], none)
  | fuel + 1, index, t, values =>
    let before (written : Text) (more : Text × Option FormatFault) : Text × Option FormatFault :=
      (written ++ more.1, more.2)
    match t with
    | [] => ([], none)
    | '%' :: '%' :: rest => before ['%'] (formatted numbers fuel index rest values)
    | '%' :: rest =>
      match conversion? index rest values with
      | .error fault => ([], some fault)
      | .ok (c, v, rest, values) =>
        match convert? numbers c v with
        | none => ([], some (.improper index))
        | some written => before written (formatted numbers fuel (index + 1) rest values)
    | c :: rest => before [c] (formatted numbers fuel index rest values)

/-! ## Comparing -/

/-- Two values are compared as numbers if both can be. -/
def compareValues (format : Text) (a b : Value) (numbers : Float → Float → Bool)
    (texts : Ordering → Bool) : Bool :=
  match a.number?, b.number? with
  | some x, some y => numbers x y
  | _, _ => texts (compare (a.toText format) (b.toText format))

end Snippetry.Awk
