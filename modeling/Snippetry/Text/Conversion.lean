import Snippetry.Text.Floating

/-! # Conversions: how a format shows numbers and texts -/
namespace Snippetry

structure Conversion where
  left : Bool
  plus : Bool
  blank : Bool
  zeros : Bool
  alternate : Bool
  width : Nat
  precision : Option Nat
  kind : Char

namespace Conversion

def setFlag (c : Conversion) : Char → Conversion
  | '-' => { c with left := true }
  | '+' => { c with plus := true }
  | ' ' => { c with blank := true }
  | '0' => { c with zeros := true }
  | _ => { c with alternate := true }

def isFlag (c : Char) : Bool := (['-', '+', ' ', '0', '#'] : Text).contains c

def ofFlags (flags : Text) : Conversion :=
  flags.foldl setFlag ⟨false, false, false, false, false, 0, none, ' '⟩

/-- A negative width asks for the left side. -/
def withWidth (c : Conversion) (width : Int) : Conversion :=
  { c with left := c.left || width < 0, width := width.natAbs }

/-- A negative precision is none. -/
def withPrecision (c : Conversion) (precision : Int) : Conversion :=
  { c with precision := if precision < 0 then none else some precision.toNat }

def pad (c : Conversion) (t : Text) : Text :=
  let fill := List.replicate (c.width - t.length) ' '
  if c.left then t ++ fill else fill ++ t

/-- A sign or base, and digits. -/
def padNumber (c : Conversion) (zeros : Bool) (sign digits : Text) : Text :=
  if zeros && !c.left then sign ++ Text.padLeft '0' (c.width - sign.length) digits
  else c.pad (sign ++ digits)

def sign (c : Conversion) (negative : Bool) : Text :=
  if negative then ['-'] else if c.plus then ['+'] else if c.blank then [' '] else []

def text (c : Conversion) (t : Text) : Text :=
  c.pad (match c.precision with
    | some n => t.take n
    | none => t)

/-- At least as many digits as the precision asks for; zero has none of its own. -/
def digits (c : Conversion) (base n : Nat) : Text :=
  match c.precision with
  | some places => Text.padLeft '0' places (if n = 0 then [] else Nat.toDigits base n)
  | none => Nat.toDigits base n

def signed (c : Conversion) (n : Int) : Text :=
  c.padNumber (c.zeros && c.precision.isNone) (c.sign (n < 0)) (c.digits 10 n.natAbs)

def unsigned (c : Conversion) (n : Nat) : Text :=
  let zeros := c.zeros && c.precision.isNone
  match c.kind with
  | 'x' => c.padNumber zeros (if c.alternate && n ≠ 0 then "0x" else []) (c.digits 16 n)
  | 'X' =>
    c.padNumber zeros (if c.alternate && n ≠ 0 then "0X" else []) ((c.digits 16 n).map Char.toUpper)
  | 'o' =>
    let ds := c.digits 8 n
    c.padNumber zeros [] (if c.alternate && ds.head? ≠ some '0' then '0' :: ds else ds)
  | _ => c.padNumber zeros [] (c.digits 10 n)

def floating (c : Conversion) (x : Float) : Text :=
  let sign := c.sign (Floating.isNegative x)
  let upper := c.kind.isUpper
  let raise (t : Text) : Text := if upper then t.map Char.toUpper else t
  if x.isNaN then c.pad (sign ++ raise "nan")
  else if x.isInf then c.pad (sign ++ raise "inf")
  else if c.kind = 'a' || c.kind = 'A' then
    c.padNumber c.zeros (sign ++ raise "0x") (raise (Floating.hexadecimal x c.precision c.alternate))
  else
    let m := Floating.magnitude x
    let places := c.precision.getD 6
    let body := match c.kind.toLower with
      | 'e' => m.scientific places c.alternate
      | 'g' => m.general places c.alternate
      | _ => m.fixed places c.alternate
    c.padNumber c.zeros sign (raise body)

end Conversion
end Snippetry
