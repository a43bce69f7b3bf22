import Snippetry.Text.Utf8

/-! # Control sequences of terminals

What a terminal would not show as characters can be taken out of a text: control characters other
than white space, and the sequences that an escape character begins. -/
namespace Snippetry.ControlSequence

inductive State
  | ground
  /-- Inside a character of several bytes. -/
  | character (left : Nat)
  | escape
  | escapeIntermediate
  | controlEntry
  | controlParameter
  | controlIntermediate
  | controlIgnored
  | deviceEntry
  | deviceParameter
  | deviceIntermediate
  | deviceIgnored
  | devicePassed
  | command
  | string
deriving DecidableEq, Repr

def isSpace (n : Nat) : Bool := n = 9 || n = 10 || n = 12 || n = 13

/-- The bytes that follow the first byte of a character. -/
def continuationBytes (n : Nat) : Nat :=
  if n < 0xC2 then 0 else if n < 0xE0 then 1 else if n < 0xF0 then 2 else if n < 0xF5 then 3 else 0

/-- The state after a byte of a sequence that is no control character. -/
def State.advance (s : State) (n : Nat) : State :=
  match s with
  | .ground | .character _ => .ground
  | .escape =>
    if n = 0x5B then .controlEntry
    else if n = 0x5D then .command
    else if n = 0x50 then .deviceEntry
    else if n = 0x58 || n = 0x5E || n = 0x5F then .string
    else if n < 0x30 then .escapeIntermediate
    else if n < 0x7F then .ground
    else s
  | .escapeIntermediate => if 0x30 ≤ n && n < 0x7F then .ground else s
  | .controlEntry => control n
  | .controlParameter => if 0x3C ≤ n && n < 0x40 then .controlIgnored else control n
  | .controlIntermediate => if 0x30 ≤ n && n < 0x40 then .controlIgnored else control n
  | .controlIgnored => if 0x40 ≤ n && n < 0x7F then .ground else s
  | .deviceEntry => if n = 0x3A then .deviceIgnored else device n
  | .deviceParameter =>
    if n = 0x3A || 0x3C ≤ n && n < 0x40 then .deviceIgnored else device n
  | .deviceIntermediate => if 0x30 ≤ n && n < 0x40 then .deviceIgnored else device n
  | .deviceIgnored | .devicePassed | .string => if n = 0x9C then .ground else s
  | .command => s
where
  control (n : Nat) : State :=
    if n < 0x30 then .controlIntermediate
    else if n < 0x40 then .controlParameter
    else if n < 0x7F then .ground
    else s
  device (n : Nat) : State :=
    if n < 0x30 then .deviceIntermediate
    else if n < 0x40 then .deviceParameter
    else if n < 0x7F then .devicePassed
    else s

def State.next (s : State) (n : Nat) : State :=
  match s with
  | .character left => if left ≤ 1 then .ground else .character (left - 1)
  | _ =>
    if n = 0x1B then .escape
    else if n = 0x18 || n = 0x1A then .ground
    else if n < 0x20 then if s = .command && n = 7 then .ground else s
    else if s = .ground then
      match continuationBytes n with
      | 0 => .ground
      | left + 1 => .character (left + 1)
    else s.advance n

/-- White space is shown within most sequences, too. -/
def State.showsSpace : State → Bool
  | .ground | .escape | .escapeIntermediate | .controlEntry | .controlParameter
  | .controlIntermediate | .controlIgnored => true
  | _ => false

def State.shows (s : State) (n : Nat) : Bool :=
  match s with
  | .character _ => true
  | _ => isSpace n && s.showsSpace
      || s = .ground && (0x20 ≤ n && n < 0x7F || continuationBytes n ≠ 0)

/-- What of the bytes is shown. While bytes are shown they leave the sequence before them as it is:
it goes on with the first byte that is not shown. -/
def stripFrom (showing : Bool) (s : State) : Bytes → Bytes
  | [] => []
  | b :: bytes =>
    let n := b.toNat
    let plain : State := match s with
      | .character left => .character left
      | _ => .ground
    if showing && plain.shows n || s.shows n then
      b :: stripFrom true (if plain.next n = .ground && plain = .ground then s else plain.next n) bytes
    else stripFrom false (s.next n) bytes

def strip (bytes : Bytes) : Bytes := stripFrom false .ground bytes

end Snippetry.ControlSequence
