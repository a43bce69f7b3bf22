import Snippetry.Markdown.Cursor

/-! # Fenced code blocks

The text of a block comes in pieces: a line is cut where a carriage return is left out and where
columns of a tab are replaced by spaces. -/
namespace Snippetry.Markdown

/-- A piece of the text of a block, and where it stands. -/
structure Piece where
  text : Text
  start : Nat
deriving DecidableEq, Repr

structure FencedBlock where
  info : Text
  pieces : List Piece
  span : Span
deriving DecidableEq, Repr

/-- The pieces of a line of code; `owed` columns of a tab before it are made of spaces, and the
carriage return that stands before the last character is left out. -/
def linePieces (owed : Nat) (line : Text) (start : Nat) : List Piece :=
  let spaces : List Piece := if owed = 0 then [] else [⟨List.replicate owed ' ', start⟩]
  let code : List Piece :=
    match line.reverse with
    | last :: '\r' :: before =>
      [⟨before.reverse, start⟩, ⟨[last], start + Text.size before.reverse + 1⟩]
    | _ => [⟨line, start⟩]
  spaces ++ code.filter fun piece => !piece.text.isEmpty

/-- The lines up to the closing fence, the end of the containers or the end of the source: the
pieces, where the block ends, and where reading goes on. -/
def codeLines (containers : List Container) (indent : Nat) (mark : Char) (length : Nat) (p : Place)
    (pieces : List Piece) : List Piece × Nat × Place :=
  let (n, c) := Cursor.continueContainers containers (.ofPlace p)
  if n < containers.length then (pieces, p.offset, p)
  else
    let c := (c.pass indent).2
    let (missing, closer) := c.pass (4 - indent)
    let closing := if missing = 0 then none else closingFence? mark length closer.place.rest
    match closing with
    | some n =>
      let q := closer.place.advance n
      (pieces, q.offset, q.advance ((blankLine? q.rest).getD 0))
    | none =>
      let line := c.place.rest.take (lineLength c.place.rest)
      let q := c.place.advance line.length
      let pieces := pieces ++ linePieces c.owed line c.place.offset
      if _shorter : q.rest.length < p.rest.length then
        codeLines containers indent mark length q pieces
      else (pieces, q.offset, q)
termination_by p.rest.length
decreasing_by assumption

end Snippetry.Markdown
