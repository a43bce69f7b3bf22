import Snippetry.Markdown.Scan
import Snippetry.Markdown.NamedReference

/-! # Info strings: backslash escapes and character references -/
namespace Snippetry.Markdown

def hexDigit? (c : Char) : Option Nat :=
  if '0' ≤ c ∧ c ≤ '9' then some (c.toNat - '0'.toNat)
  else if 'a' ≤ c ∧ c ≤ 'f' then some (c.toNat - 'a'.toNat + 10)
  else if 'A' ≤ c ∧ c ≤ 'F' then some (c.toNat - 'A'.toNat + 10)
  else none

/-- The value of a run of digits in the given base. -/
def digitsValue (base : Nat) (digits : Text) : Nat :=
  digits.foldl (fun value c => base * value + (hexDigit? c).getD 0) 0

/-- A number that is no character, or zero, stands for the replacement character. -/
def charOfNumber (n : Nat) : Char :=
  if n = 0 then '\ufffd'
  else if n < 0xD800 ∨ (0xDFFF < n ∧ n < 0x110000) then Char.ofNat n else '\ufffd'

/-- After `&`: what the reference stands for and how many characters it takes. -/
def reference? (t : Text) : Option (Text × Nat) :=
  match t with
  | '#' :: rest =>
    let hex := match rest with
      | 'x' :: _ | 'X' :: _ => true
      | _ => false
    let tail := if hex then rest.drop 1 else rest
    let digits :=
      if hex then (tail.take 6).takeWhile fun c => (hexDigit? c).isSome
      else (tail.take 7).takeWhile Char.isDigit
    match digits, tail.drop digits.length with
    | [], _ => none
    | _, ';' :: _ =>
      some ([charOfNumber (digitsValue (if hex then 16 else 10) digits)],
        digits.length + (if hex then 3 else 2))
    | _, _ => none
  | _ =>
    let name := t.takeWhile Char.isAlphanum
    match t.drop name.length with
    | ';' :: _ => (namedReference? name).map (·, name.length + 1)
    | _ => none

/-- Replace references and escapes; carriage returns are dropped. -/
def unescapeInfo (t : Text) : Text :=
  match t with
  | [] => []
  | '\\' :: c :: rest => if isPunctuation c then c :: unescapeInfo rest else '\\' :: unescapeInfo (c :: rest)
  | '&' :: rest =>
    match reference? rest with
    | some (text, n) => text ++ unescapeInfo (rest.drop n)
    | none => '&' :: unescapeInfo rest
  | '\r' :: rest => unescapeInfo rest
  | c :: rest => c :: unescapeInfo rest
termination_by t.length

end Snippetry.Markdown
