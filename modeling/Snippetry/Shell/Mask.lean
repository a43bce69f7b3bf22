import Snippetry.Text.Basic

/-! # Masks of permissions -/
namespace Snippetry.Shell.Mask

/-- Permission bits of one kind for the user, the group and others. -/
def classBits (who : Char) (bits : Nat) : Nat :=
  match who with
  | 'u' => 64 * bits
  | 'g' => 8 * bits
  | 'o' => bits
  | _ => 73 * bits

def bitsOf : Char → Nat
  | 'r' => 4
  | 'w' => 2
  | 'x' => 1
  | _ => 0

/-- The permissions that are left for a class. -/
def shown (mask : Nat) (who : Char) (place : Nat) : Text :=
  let bits := 7 - mask / place % 8
  who :: '=' :: (if bits / 4 % 2 = 1 then ['r'] else []) ++ (if bits / 2 % 2 = 1 then ['w'] else [])
    ++ if bits % 2 = 1 then ['x'] else []

def toLetters (mask : Nat) : Text :=
  Text.join [','] [shown mask 'u' 64, shown mask 'g' 8, shown mask 'o' 1]

def toDigits (mask : Nat) : Text := Text.padLeft '0' 4 (Nat.toDigits 8 mask)

/-- Octal digits. Of more than three of them the last ones count. -/
def ofDigits? (t : Text) : Option Nat :=
  (t.foldlM (fun (n : Nat) c =>
    if '0' ≤ c && c ≤ '7' then some (8 * n + (c.toNat - 48)) else none) 0).map (· % 512)

/-- The bits that letters ask for. Some stand for the bits of a class, and one for the right to execute
if anybody has that. -/
def wanted (allowed : Nat) (letters : Text) : Nat :=
  letters.foldl (fun bits c =>
    bits ||| match c with
      | 'u' => allowed / 64 % 8
      | 'g' => allowed / 8 % 8
      | 'o' => allowed % 8
      | 'X' => if allowed &&& 73 = 0 then 0 else 1
      | c => bitsOf c) 0

/-- Change what is allowed by the operations after the classes. -/
def change (classes : Text) : Nat → Nat → Text → Option Nat
  | 0, _, _ => none
  | _, allowed, [] => some allowed
  | fuel + 1, allowed, operator :: t =>
    let letters := t.takeWhile fun c => (['r', 'w', 'x', 'X', 's', 'u', 'g', 'o'] : Text).elem c
    let rest := t.drop letters.length
    let bits := wanted allowed letters
    let places := if classes = [] then ['a'] else classes
    let apply (f : Nat → Nat → Nat) : Nat :=
      places.foldl (fun allowed who => f allowed (classBits who bits)) allowed
    match operator with
    | '+' => change classes fuel (apply fun a b => a ||| b) rest
    | '-' => change classes fuel (apply fun a b => a &&& (511 ^^^ b)) rest
    | '=' =>
      let cleared := places.foldl (fun a who => a &&& (511 ^^^ classBits who 7)) allowed
      change classes fuel
        (places.foldl (fun a who => a ||| classBits who bits) cleared) rest
    | _ => none

/-- Change what is allowed by clauses. Only the last one may do without an operation. -/
def changeAll : Nat → List Text → Option Nat
  | allowed, [] => some allowed
  | allowed, clause :: clauses =>
    let classes := clause.takeWhile fun c => (['u', 'g', 'o', 'a'] : Text).elem c
    let rest := clause.drop classes.length
    if rest = [] then if clauses = [] then some allowed else none
    else (change classes (rest.length + 1) allowed rest).bind fun allowed => changeAll allowed clauses

/-- The mask that a text asks for, given the current one. -/
def ofLetters? (mask : Nat) (t : Text) : Option Nat :=
  (changeAll (511 - mask) (Text.splitOn ',' t)).map fun allowed => 511 - allowed

end Snippetry.Shell.Mask
