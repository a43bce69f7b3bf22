/-! # Texts as lists of characters, measured in UTF-8 bytes

The blank characters are those with the Unicode property White_Space. -/
namespace Snippetry

/-- A text is the list of its characters. -/
abbrev Text := List Char

instance : Coe String Text := ⟨String.toList⟩

/-- A half-open range of byte offsets into a source. -/
structure Span where
  start : Nat
  stop : Nat
deriving DecidableEq, Repr, Inhabited

namespace Span

def shift (n : Nat) (s : Span) : Span := ⟨s.start + n, s.stop + n⟩

end Span

/-- Sets of characters, given by ranges of their numbers. -/
abbrev Ranges := List (Nat × Nat)

/-- Both ends of a range belong to it. -/
def Ranges.holds (ranges : Ranges) (c : Char) : Bool :=
  ranges.any fun (low, high) => low ≤ c.toNat && c.toNat ≤ high

def isBlank (c : Char) : Bool :=
  let n := c.toNat
  (9 ≤ n ∧ n ≤ 13) ∨ n = 0x20 ∨ n = 0x85 ∨ n = 0xA0 ∨ n = 0x1680 ∨ (0x2000 ≤ n ∧ n ≤ 0x200A)
    ∨ n = 0x2028 ∨ n = 0x2029 ∨ n = 0x202F ∨ n = 0x205F ∨ n = 0x3000

namespace Text

/-- Number of bytes of the UTF-8 encoding. -/
def size : Text → Nat
  | [] => 0
  | c :: t => c.utf8Size + size t

@[simp] theorem size_nil : size [] = 0 := rfl

@[simp] theorem size_cons (c : Char) (t : Text) : size (c :: t) = c.utf8Size + size t := rfl

@[simp] theorem size_append (s t : Text) : size (s ++ t) = size s + size t := by
  induction s with
  | nil => simp
  | cons c s ih => simp [ih, Nat.add_assoc]

/-- Remove one `c` at the end, if there is one. -/
def chopEnd (c : Char) (t : Text) : Text :=
  if t.getLast? = some c then t.dropLast else t

/-- Split around the first occurrence of `needle`. -/
def splitFirst? (needle : Text) : Text → Option (Text × Text)
  | [] => if needle = [] then some ([], []) else none
  | c :: t =>
    match needle.isPrefixOf? (c :: t) with
    | some rest => some ([], rest)
    | none => (splitFirst? needle t).map fun (before, after) => (c :: before, after)

def contains (t needle : Text) : Bool := (splitFirst? needle t).isSome

/-- The pieces between the separators; one more than there are separators. -/
def splitOn (sep : Char) : Text → List Text
  | [] => [[]]
  | c :: t =>
    if c = sep then [] :: splitOn sep t
    else match splitOn sep t with
      | [] => [[c]]
      | piece :: pieces => (c :: piece) :: pieces

def join (sep : Text) (ts : List Text) : Text := List.intercalate sep ts

/-- The first `n` bytes, if they end between two characters. -/
def takeBytes? : Nat → Text → Option Text
  | 0, _ => some []
  | _ + 1, [] => none
  | n + 1, c :: t =>
    if c.utf8Size ≤ n + 1 then (takeBytes? (n + 1 - c.utf8Size) t).map (c :: ·) else none
termination_by _ t => t.length

/-- What follows the first `n` bytes, if they end between two characters. -/
def dropBytes? : Nat → Text → Option Text
  | 0, t => some t
  | _ + 1, [] => none
  | n + 1, c :: t => if c.utf8Size ≤ n + 1 then dropBytes? (n + 1 - c.utf8Size) t else none
termination_by _ t => t.length

/-- The text a span of bytes covers, if both its ends lie between characters. -/
def slice? (source : Text) (s : Span) : Option Text :=
  if s.start ≤ s.stop then (dropBytes? s.start source).bind (takeBytes? (s.stop - s.start)) else none

/-- Pad with blanks on the right to a width counted in characters. -/
def padRight (width : Nat) (t : Text) : Text := t ++ List.replicate (width - t.length) ' '

/-- Pad on the left to a width counted in characters. -/
def padLeft (fill : Char) (width : Nat) (t : Text) : Text :=
  List.replicate (width - t.length) fill ++ t

/-! ## Trimming -/

def trimStart (t : Text) : Text := t.dropWhile isBlank

def trimEnd (t : Text) : Text := (t.reverse.dropWhile isBlank).reverse

def trim (t : Text) : Text := trimEnd (trimStart t)

/-- The trimmed text, unless nothing is left. -/
def nonBlank? (t : Text) : Option Text :=
  let t := trim t
  if t = [] then none else some t

/-! ## Decimal numbers -/

def ofNat (n : Nat) : Text := Nat.toDigits 10 n

def digit? (c : Char) : Option Nat :=
  if '0' ≤ c ∧ c ≤ '9' then some (c.toNat - '0'.toNat) else none

/-- The value of a nonempty run of decimal digits. -/
def toNat? (t : Text) : Option Nat :=
  if t = [] then none
  else t.foldl (fun acc c => do pure (10 * (← acc) + (← digit? c))) (some 0)

/-- One leading `+` is allowed; values above `most` are refused. -/
def toBounded? (most : Nat) (t : Text) : Option Nat :=
  let digits := match t with
    | '+' :: rest => rest
    | _ => t
  match toNat? digits with
  | some n => if n ≤ most then some n else none
  | none => none

end Text
end Snippetry
