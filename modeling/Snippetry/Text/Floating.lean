import Snippetry.Text.Basic

/-! # Floating-point numbers as text

What is written is rounded from the exact binary value; a value halfway between two goes to the even
one. -/
namespace Snippetry.Floating

/-- The magnitude of a finite number as a fraction. -/
structure Magnitude where
  numerator : Nat
  denominator : Nat

def isNegative (x : Float) : Bool := x.toBits ≥ 0x8000000000000000

def magnitude (x : Float) : Magnitude :=
  let bits := x.toBits.toNat % 0x8000000000000000
  let fraction := bits % 0x10000000000000
  let exponent := bits / 0x10000000000000
  let significand := if exponent = 0 then fraction else fraction + 0x10000000000000
  let exponent := max exponent 1
  ⟨significand * Nat.pow 2 (exponent - 1075), Nat.pow 2 (1075 - exponent)⟩

/-- The whole number nearest to a fraction. -/
def roundDiv (n d : Nat) : Nat :=
  let q := n / d
  let r := n % d
  if d < 2 * r || (d = 2 * r && q % 2 = 1) then q + 1 else q

namespace Magnitude

/-- Whether a magnitude is at least a power of ten. -/
def reaches (m : Magnitude) (exponent : Int) : Bool :=
  m.denominator * Nat.pow 10 exponent.toNat ≤ m.numerator * Nat.pow 10 (-exponent).toNat

/-- Count up to the greatest power of ten that is reached. -/
def climb (m : Magnitude) : Nat → Int → Int
  | 0, exponent => exponent
  | n + 1, exponent => if m.reaches (exponent + 1) then climb m n (exponent + 1) else exponent

/-- The exponent of the first decimal digit. -/
def exponent (m : Magnitude) : Int :=
  let binary : Int := (m.numerator.log2 : Int) - m.denominator.log2
  m.climb 4 ((binary * 30103).fdiv 100000 - 2)

/-- The number nearest to the magnitude that is a multiple of a power of ten, in units of that
power. -/
def roundTo (m : Magnitude) (exponent : Int) : Nat :=
  roundDiv (m.numerator * Nat.pow 10 (-exponent).toNat) (m.denominator * Nat.pow 10 exponent.toNat)

/-- The first digits, so many after the first one, and the exponent of the first. -/
def digits (m : Magnitude) (places : Nat) : Nat × Int :=
  if m.numerator = 0 then (0, 0)
  else
    let e := m.exponent
    let n := m.roundTo (e - places)
    if n = Nat.pow 10 (places + 1) then (Nat.pow 10 places, e + 1) else (n, e)

/-- A number given in units of its last decimal. -/
def withPoint (places n : Nat) (point : Bool) : Text :=
  let ds := Text.padLeft '0' (places + 1) (Text.ofNat n)
  let whole := ds.take (ds.length - places)
  whole ++ if places = 0 && !point then [] else '.' :: ds.drop whole.length

def fixed (m : Magnitude) (places : Nat) (point : Bool) : Text :=
  withPoint places (m.roundTo (-places)) point

def exponentText (e : Int) : Text :=
  'e' :: (if e < 0 then '-' else '+') :: Text.padLeft '0' 2 (Text.ofNat e.natAbs)

def scientific (m : Magnitude) (places : Nat) (point : Bool) : Text :=
  let (n, e) := m.digits places
  withPoint places n point ++ exponentText e

def withoutZeros (t : Text) : Text :=
  if '.' ∈ t then
    let t := (t.reverse.dropWhile (· = '0')).reverse
    Text.chopEnd '.' t
  else t

/-- With so many significant digits, in the notation that suits the size. -/
def general (m : Magnitude) (significant : Nat) (point : Bool) : Text :=
  let significant := max significant 1
  let (n, e) := m.digits (significant - 1)
  let trim (t : Text) : Text := if point then t else withoutZeros t
  if -4 ≤ e ∧ e < significant then
    trim (m.fixed ((significant : Int) - 1 - e).toNat point)
  else trim (withPoint (significant - 1) n point) ++ exponentText e

end Magnitude

/-- With so many hexadecimal digits after the first, or as many as it takes, and a power of two. -/
def hexadecimal (x : Float) (places : Option Nat) (point : Bool) : Text :=
  let bits := x.toBits.toNat % 0x8000000000000000
  let fraction := bits % 0x10000000000000
  let biased := bits / 0x10000000000000
  let significand := if biased = 0 then fraction else fraction + 0x10000000000000
  let exponent : Int := if bits = 0 then 0 else (max biased 1 : Int) - 1023
  let shown (places n : Nat) : Text :=
    let ds := Text.padLeft '0' (places + 1) (Nat.toDigits 16 n)
    let whole := ds.take (ds.length - places)
    whole ++ if places = 0 && !point then [] else '.' :: ds.drop whole.length
  let digits := match places with
    | none =>
      let t := Magnitude.withoutZeros (shown 13 significand)
      if point && '.' ∉ t then t ++ ['.'] else t
    | some places =>
      if 13 ≤ places then shown places (significand * Nat.pow 16 (places - 13))
      else shown places (roundDiv significand (Nat.pow 16 (13 - places)))
  digits ++ 'p' :: (if exponent < 0 then '-' else '+') :: Text.ofNat exponent.natAbs

/-! ## Reading -/

def infinity : Float := 1.0 / 0.0

def notANumber : Float := 0.0 / 0.0

/-- Digits with a fraction and an exponent, as a whole number and a power of the base. -/
structure Scanned where
  value : Nat
  scale : Int
  rest : Text

/-- The value of a digit in a base of at most 16. -/
def digitIn? (base : Nat) (c : Char) : Option Nat :=
  let value :=
    if '0' ≤ c ∧ c ≤ '9' then some (c.toNat - '0'.toNat)
    else if 'a' ≤ c ∧ c ≤ 'f' then some (c.toNat - 'a'.toNat + 10)
    else if 'A' ≤ c ∧ c ≤ 'F' then some (c.toNat - 'A'.toNat + 10)
    else none
  value.filter (· < base)

def valueIn (base : Nat) (digits : Text) : Nat :=
  digits.foldl (fun n c => base * n + (digitIn? base c).getD 0) 0

/-- Read an exponent after its letter; one without digits is not there. -/
def exponent? (t : Text) : Option (Int × Text) :=
  let (negative, digits) : Bool × Text := match t with
    | '-' :: rest => (true, rest)
    | '+' :: rest => (false, rest)
    | rest => (false, rest)
  let ds := digits.takeWhile Char.isDigit
  if ds = [] then none
  else
    let n : Int := valueIn 10 (if ds.length > 9 then "999999999" else ds)
    some (if negative then -n else n, digits.drop ds.length)

/-- Read digits with a fraction, and an exponent after one of the marks. -/
def scan? (base : Nat) (perDigit : Int) (marks t : Text) : Option Scanned :=
  let isDigit (c : Char) : Bool := (digitIn? base c).isSome
  let whole := t.takeWhile isDigit
  let rest := t.drop whole.length
  let (fraction, rest) : Text × Text := match rest with
    | '.' :: after =>
      let fraction := after.takeWhile isDigit
      if whole = [] && fraction = [] then ([], rest) else (fraction, after.drop fraction.length)
    | _ => ([], rest)
  if whole = [] && fraction = [] then none
  else
    let scale := -(fraction.length : Int) * perDigit
    let (power, rest) : Int × Text := match rest with
      | c :: after => if c ∈ marks then (exponent? after).getD (0, rest) else (0, rest)
      | [] => (0, rest)
    some ⟨valueIn base (whole ++ fraction), scale + power, rest⟩

def ofDecimal (value : Nat) (scale : Int) : Float :=
  if value = 0 then 0
  else if 400 < scale then infinity
  else if scale < -400 - (value.log2 : Int) then 0
  else Float.ofScientific value (scale < 0) scale.natAbs

def ofBinary (value : Nat) (scale : Int) : Float :=
  if value = 0 then 0
  else if 1100 < scale then infinity
  else if scale < -1200 - (value.log2 : Int) then 0
  else if scale < 0 then
    Float.ofScientific (value * Nat.pow 5 scale.natAbs) true scale.natAbs
  else Float.ofScientific (value * Nat.pow 2 scale.toNat) false 0

def lowercase (t : Text) : Text := t.map Char.toLower

/-- The number without a sign that a text begins with, and what follows it. -/
def unsigned? (t : Text) : Option (Float × Text) :=
  let hexadecimal : Option Scanned := match t with
    | '0' :: x :: rest => if x = 'x' || x = 'X' then scan? 16 4 ['p', 'P'] rest else none
    | _ => none
  match hexadecimal, scan? 10 1 ['e', 'E'] t with
  | some s, _ => some (ofBinary s.value s.scale, s.rest)
  | none, some s => some (ofDecimal s.value s.scale, s.rest)
  | none, none =>
    if lowercase (t.take 8) = ("infinity" : Text) then some (infinity, t.drop 8)
    else if lowercase (t.take 3) = ("inf" : Text) then some (infinity, t.drop 3)
    else if lowercase (t.take 3) = ("nan" : Text) then some (notANumber, t.drop 3)
    else none

def isSpace (c : Char) : Bool := c = ' ' || ('\t' ≤ c && c ≤ '\r')

/-- The number that a text begins with, after blanks, and what follows it. -/
def leading? (t : Text) : Option (Float × Text) :=
  match t.dropWhile isSpace with
  | '-' :: rest => (unsigned? rest).map fun (x, rest) => (-x, rest)
  | '+' :: rest => unsigned? rest
  | rest => unsigned? rest

end Snippetry.Floating
