import Snippetry.Text.Basic

/-! # Names of files in messages

A name that a shell would not take as it stands is shown between quotes. -/
namespace Snippetry.FileName

/-- Characters that mean something to a shell anywhere in a word. -/
def special : Text :=
  [' ', '!', '"', '$', '&', '\'', '(', ')', '*', ':', ';', '<', '=', '>', '?', '[', '\\', '^', '\x60',
   '|']

def isPrintable (c : Char) : Bool := ' ' ≤ c && c ≤ '~'

def needsQuotes (t : Text) : Bool :=
  t = [] || t = ['\x7b'] || t = ['\x7d'] || t.any (fun c => c ∈ special || !isPrintable c)
    || t.head? = some '#' || t.head? = some '~'

/-- A control character as an escape. -/
def escape (c : Char) : Text :=
  match c with
  | '\x07' => "\\a"
  | '\x08' => "\\b"
  | '\t' => "\\t"
  | '\n' => "\\n"
  | '\x0b' => "\\v"
  | '\x0c' => "\\f"
  | '\r' => "\\r"
  | c =>
    let digit (place : Nat) : Char := Char.ofNat (48 + c.toNat / place % 8)
    ['\\', digit 64, digit 8, digit 1]

/-- The inner part between single quotes; escapes stand outside of them. -/
def inner : Bool → Text → Text
  | escaped, [] => if escaped then "'" else []
  | escaped, c :: t =>
    if isPrintable c then
      let start : Text := if escaped then "''" else []
      let shown : Text := if c = '\'' then "'\\''" else [c]
      start ++ shown ++ inner false t
    else
      let start : Text := if escaped then [] else "'$'"
      start ++ escape c ++ inner true t

/-- Whether a name may stand between double quotes. -/
def isMild (t : Text) : Bool :=
  t.all fun c => isPrintable c && (c = ' ' || c = '\'' || c = '#' || c = '~' || !special.elem c)

def quoted (t : Text) : Text :=
  if !needsQuotes t then t
  else if '\'' ∈ t && isMild t then '"' :: t ++ ['"']
  else
    let body := inner false t
    if t.getLast?.any (fun c => !isPrintable c) then '\'' :: body else '\'' :: body ++ ['\'']

end Snippetry.FileName
