import Snippetry.Text.Floating

/-! # Whole numbers as text -/
namespace Snippetry.Integer

def toText (n : Int) : Text :=
  if n < 0 then '-' :: Text.ofNat n.natAbs else Text.ofNat n.natAbs

/-- The number without a sign that a text begins with, and what follows it. Without a base given it is
octal after a zero and hexadecimal after `0x`. -/
def digits? (base : Option Nat) (t : Text) : Option (Nat × Text) :=
  let read (base : Nat) (t : Text) : Option (Nat × Text) :=
    let ds := t.takeWhile fun c => (Floating.digitIn? base c).isSome
    if ds = [] then none else some (Floating.valueIn base ds, t.drop ds.length)
  match base, t with
  | some base, t => read base t
  | none, '0' :: x :: rest =>
    (if x = 'x' || x = 'X' then read 16 rest else none) <|> read 8 t
  | none, '0' :: _ => read 8 t
  | none, t => read 10 t

/-- The number that a text begins with, after blanks, and what follows it. -/
def leading? (base : Option Nat) (t : Text) : Option (Int × Text) :=
  match t.dropWhile Floating.isSpace with
  | '-' :: rest => (digits? base rest).map fun (n, rest) => (-(n : Int), rest)
  | '+' :: rest => (digits? base rest).map fun (n, rest) => ((n : Int), rest)
  | rest => (digits? base rest).map fun (n, rest) => ((n : Int), rest)

def least : Int := -9223372036854775808

def greatest : Int := 9223372036854775807

def isInRange (n : Int) : Bool := least ≤ n && n ≤ greatest

def clamp (n : Int) : Int := max least (min greatest n)

/-- The number with the same last 64 bits. -/
def wrap (n : Int) : Int := n.bmod 18446744073709551616

/-- A text that is a number, with blanks around it. Nothing but blanks is zero where no base is
given. -/
def whole? (base : Option Nat) (t : Text) : Option Int :=
  match leading? base t with
  | some (n, rest) =>
    if rest.all Floating.isSpace && isInRange n then some n else none
  | none => if base.isNone && t.all Floating.isSpace then some 0 else none

end Snippetry.Integer
