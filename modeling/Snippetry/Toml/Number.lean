import Snippetry.Toml.Scan
import Snippetry.Toml.Value

/-! # Numbers, dates and times in TOML -/
namespace Snippetry.Toml

def decimalDigit? (c : Char) : Option Nat := (hexDigit? c).filter (· < 10)

def octalDigit? (c : Char) : Option Nat := (hexDigit? c).filter (· < 8)

def binaryDigit? (c : Char) : Option Nat := (hexDigit? c).filter (· < 2)

/-- The rest of a number in a base; an underscore may stand between two digits. -/
def moreDigits (base : Nat) (digit? : Char → Option Nat) (n : Nat) : Scanner Nat
  | '_' :: c :: t => do moreDigits base digit? (base * n + (← digit? c)) t
  | ['_'] => none
  | c :: t =>
    match digit? c with
    | some d => moreDigits base digit? (base * n + d) t
    | none => some (n, c :: t)
  | [] => some (n, [])

def digits (base : Nat) (digit? : Char → Option Nat) : Scanner Nat
  | c :: t => do moreDigits base digit? (← digit? c) t
  | [] => none

def sign : Text → Int × Text
  | '-' :: t => (-1, t)
  | '+' :: t => (1, t)
  | t => (1, t)

/-- A whole number with or without a sign. Nothing follows a zero at the front. -/
def decimal? : Scanner Int := fun t =>
  match sign t with
  | (_, '0' :: t) => some (0, t)
  | (s, t) => do
    let (n, t) ← digits 10 decimalDigit? t
    some (s * n, t)

/-- Whole numbers have 64 bits. -/
def bounded (n : Int) : Option Int :=
  if -9223372036854775808 ≤ n ∧ n < 9223372036854775808 then some n else none

def integer? : Scanner Int := fun t => do
  let (n, t) ← match t with
    | '0' :: 'x' :: t => (digits 16 hexDigit? t).map fun (n, t) => (Int.ofNat n, t)
    | '0' :: 'o' :: t => (digits 8 octalDigit? t).map fun (n, t) => (Int.ofNat n, t)
    | '0' :: 'b' :: t => (digits 2 binaryDigit? t).map fun (n, t) => (Int.ofNat n, t)
    | t => decimal? t
  some (← bounded n, t)

def exponent? : Text → Option Text
  | c :: t =>
    if c = 'e' ∨ c = 'E' then (digits 10 decimalDigit? (sign t).2).map Prod.snd else none
  | [] => none

/-- What follows a number that has a fraction or an exponent. -/
def float? (t : Text) : Option Text :=
  match sign t with
  | (_, 'i' :: 'n' :: 'f' :: t) => some t
  | (_, 'n' :: 'a' :: 'n' :: t) => some t
  | _ => do
    let (_, t) ← decimal? t
    match t with
    | '.' :: t =>
      let (_, t) ← digits 10 decimalDigit? t
      some ((exponent? t).getD t)
    | t => exponent? t

/-! ## Dates and times -/

/-- A number of exactly so many digits, within bounds; the digits are kept. -/
def fixedDigits? (count low high : Nat) : Scanner Text := fun t => do
  let word := t.take count
  let n ← Text.toNat? word
  if word.length = count ∧ low ≤ n ∧ n ≤ high then some (word, t.drop count) else none

def isLeapYear (year : Nat) : Bool := year % 4 = 0 && (year % 100 ≠ 0 || year % 400 = 0)

def daysIn (year month : Nat) : Nat :=
  if month = 2 then if isLeapYear year then 29 else 28
  else if month = 4 ∨ month = 6 ∨ month = 9 ∨ month = 11 then 30
  else 31

def date? : Scanner Text := fun t => do
  let (year, t) ← fixedDigits? 4 0 9999 t
  let (month, t) ← fixedDigits? 2 1 12 (← expect? '-' t)
  let last := daysIn ((Text.toNat? year).getD 0) ((Text.toNat? month).getD 0)
  let (day, t) ← fixedDigits? 2 1 last (← expect? '-' t)
  some (year ++ "-" ++ month ++ "-" ++ day, t)

/-- The digits of a second's fraction, down to the nanosecond, without zeros at the end. -/
def fraction (t : Text) : Text × Text :=
  match t with
  | '.' :: rest =>
    let digits := rest.takeWhile Char.isDigit
    if digits = [] then ([], t)
    else
      let kept := ((digits.take 9).reverse.dropWhile (· = '0')).reverse
      (if kept = [] then [] else '.' :: kept, rest.drop digits.length)
  | t => ([], t)

def time? : Scanner Text := fun t => do
  let (hour, t) ← fixedDigits? 2 0 23 t
  let (minute, t) ← fixedDigits? 2 0 59 (← expect? ':' t)
  let (second, t) ← fixedDigits? 2 0 60 (← expect? ':' t)
  let (fraction, t) := fraction t
  some (hour ++ ":" ++ minute ++ ":" ++ second ++ fraction, t)

/-- A distance from universal time, if one is given. No distance has a plus sign. -/
def offset (t : Text) : Text × Text :=
  match t with
  | 'Z' :: rest => ("Z", rest)
  | 'z' :: rest => ("Z", rest)
  | c :: rest =>
    if c = '+' ∨ c = '-' then
      let minutes := do
        let (hour, rest) ← fixedDigits? 2 0 23 rest
        let (minute, rest) ← fixedDigits? 2 0 59 (← expect? ':' rest)
        let sign := if hour = ['0', '0'] ∧ minute = ['0', '0'] then '+' else c
        some (sign :: hour ++ ":" ++ minute, rest)
      minutes.getD ([], t)
    else ([], t)
  | [] => ([], t)

def timeAfterDate? : Scanner Text
  | c :: t => do
    if c = 'T' ∨ c = 't' ∨ c = ' ' then
      let (time, t) ← time? t
      let (offset, t) := offset t
      some ('T' :: time ++ offset, t)
    else none
  | [] => none

def datetime? : Scanner Text := fun t =>
  match date? t with
  | some (date, t) =>
    match timeAfterDate? t with
    | some (time, t) => some (date ++ time, t)
    | none => some (date, t)
  | none => time? t

/-- A word that begins with a sign or a digit. -/
def number? : Scanner Value := fun t =>
  match datetime? t with
  | some (date, t) => some (.datetime date, t)
  | none =>
    match float? t with
    | some t => some (.float, t)
    | none => (integer? t).map fun (n, t) => (.integer n, t)

end Snippetry.Toml
