import Snippetry.Text.Basic

/-! # Lines of a source

A line ends with a newline, which may follow a carriage return; neither belongs to its text.
Offsets count bytes. -/
namespace Snippetry

structure Line where
  start : Nat
  text : Text
deriving DecidableEq, Repr

namespace Line

def span (l : Line) : Span := ⟨l.start, l.start + l.text.size⟩

end Line

namespace Text

/-- Cut after every newline. -/
def cutLines : Text → List Text
  | [] => []
  | c :: t =>
    if c = '\n' then [c] :: cutLines t
    else match cutLines t with
      | [] => [[c]]
      | piece :: pieces => (c :: piece) :: pieces

/-- Remove one newline at the end, then one carriage return. -/
def chomp (t : Text) : Text := chopEnd '\r' (chopEnd '\n' t)

/-- Give each piece, its terminator removed, the offset it starts at. -/
def linesAt : Nat → List Text → List Line
  | _, [] => []
  | offset, piece :: pieces => ⟨offset, chomp piece⟩ :: linesAt (offset + piece.size) pieces

def lines (source : Text) : List Line := linesAt 0 (cutLines source)

/-- The lines of a message. A carriage return is part of the end of a line only before a newline. -/
def rows (t : Text) : List Text :=
  (cutLines t).map fun piece => if piece.getLast? = some '\n' then chomp piece else piece

/-- Newlines among the characters that start before byte `offset`. -/
def newlinesBefore : Nat → Text → Nat
  | _, [] => 0
  | offset, c :: t =>
    if offset = 0 then 0
    else (if c = '\n' then 1 else 0) + newlinesBefore (offset - c.utf8Size) t

/-- The number, from 1, of the line that byte `offset` lies on. -/
def lineNumber (source : Text) (offset : Nat) : Nat := newlinesBefore offset source + 1

end Text
end Snippetry
