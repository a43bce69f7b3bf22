import Snippetry.Report.Ink
import Snippetry.Text.Basic
import Snippetry.Text.Columns

/-! # Excerpts of a source with a range marked

A range within a line is underlined. One of several lines has a bracket on its left; of many lines
only the first ones and the last ones are shown. -/
namespace Snippetry.Report

/-- A line of the source, without its end. -/
structure Row where
  number : Nat
  start : Nat
  text : Text
deriving DecidableEq, Repr

def numberRows (number start : Nat) : List Text → List Row
  | [] => []
  | text :: texts => ⟨number, start, text⟩ :: numberRows (number + 1) (start + text.size + 1) texts

def rows (source : Text) : List Row := numberRows 1 0 (Text.splitOn '\n' source)

def rowAt (source : Text) (offset : Nat) : Row :=
  ((rows source).takeWhile (·.start ≤ offset)).getLastD ⟨1, 0, []⟩

/-- The characters that end within the first `n` bytes. -/
def charsWithin : Nat → Text → Nat
  | _, [] => 0
  | n, c :: t => if c.utf8Size ≤ n then charsWithin (n - c.utf8Size) t + 1 else 0

/-- The column of an offset on its row, counted from 1. -/
def Row.column (r : Row) (offset : Nat) : Nat := charsWithin (offset - r.start) r.text + 1

def trimEnding (t : Text) : Text :=
  (t.reverse.dropWhile fun c => c = '\n' || c = '\r' || c = '\x00').reverse

/-- A character as it is shown: where it starts on its row, and how wide it is. -/
structure Cell where
  char : Char
  start : Nat
  width : Nat

def Cell.stop (c : Cell) : Nat := c.start + c.char.utf8Size

def tabWidth : Nat := 4

def cells (start column : Nat) : Text → List Cell
  | [] => []
  | c :: t =>
    let width := if c = '\t' then tabWidth - column % tabWidth else columns c
    ⟨c, start, width⟩ :: cells (start + c.utf8Size) (column + width) t

def Cell.shown (c : Cell) : Text := if c.char = '\t' then List.replicate c.width ' ' else [c.char]

def rowCells (r : Row) : List Cell := cells 0 0 (trimEnding r.text)

/-- What a row has to do with the marked range; offsets count from the start of the row. -/
inductive Mark
  | within (start stop : Nat)
  | opens (start : Nat)
  | passes
  | closes (stop : Nat)
deriving DecidableEq, Repr

def Mark.covers (m : Mark) (start stop : Nat) : Bool :=
  match m with
  | within first last => max first start < min last stop
  | opens first => first ≤ start
  | passes => true
  | closes last => stop ≤ last

/-- A bracket opens beside its row if only blanks stand before it, and below the row otherwise. -/
def opensBeside (r : Row) (start : Nat) : Bool :=
  let t := trimEnding r.text
  start ≤ t.size - (Text.trimStart t).size

structure Excerpt where
  severity : Severity
  /-- Columns for the numbers of the lines. -/
  padding : Nat

namespace Excerpt

def gutter (e : Excerpt) : Painted := [.text (List.replicate (e.padding + 1) ' ')]

def border (e : Excerpt) (shape : Text) : Painted := e.gutter ++ inked .border shape

def bracket (e : Excerpt) (shape : Text) : Painted :=
  .text " " :: inked (.label e.severity) shape

def newline : Painted := [.text "\n"]

def beside (e : Excerpt) (r : Row) : Mark → Painted
  | .within _ _ => []
  | .opens start => if opensBeside r start then e.bracket "╭" else [.text "  "]
  | .passes => e.bracket "│"
  | .closes _ => e.bracket "│"

def numbered (e : Excerpt) (r : Row) (m : Mark) : Painted :=
  inked .border (Text.padLeft ' ' e.padding (Text.ofNat r.number)) ++ [.text " "]
    ++ inked .border "│" ++ e.beside r m ++ [.text " "]
    ++ marked (.label e.severity) false
        ((rowCells r).map fun c => (c.shown, m.covers c.start c.stop))
    ++ newline

/-- A line of the bracket that ends below a character. -/
def rule (e : Excerpt) (r : Row) (limit : Nat) : Painted :=
  let width := ((rowCells r).takeWhile (·.start < limit)).foldl (fun n cell => n + cell.width) 0
  inked (.label e.severity) (List.replicate width '─' ++ ['^']) ++ newline

/-- What stands below a row. One caret is shown at least, if need be after the end of the row. -/
def below (e : Excerpt) (r : Row) : Mark → Painted
  | .within start stop =>
    let after : Cell := ⟨'\x00', (trimEnding r.text).size, 1⟩
    e.border "│" ++ [.text " "]
      ++ marked (.label e.severity) false ((rowCells r ++ [after]).map fun c =>
          let mark := (Mark.within start stop).covers c.start c.stop
          (if mark then List.replicate c.width '^'
            else if c.start < stop then List.replicate c.width ' '
            else [], mark))
      ++ newline
  | .opens start =>
    if opensBeside r start then []
    else e.border "│" ++ e.bracket "╭" ++ e.rule r (start + 1)
  | .passes => []
  | .closes stop => e.border "│" ++ e.bracket "╰" ++ e.rule r stop

def row (e : Excerpt) (r : Row) (m : Mark) : Painted := e.numbered r m ++ e.below r m

/-- How many rows are shown after the first one, and before the last one. -/
def rowsAfterFirst : Nat := 3

def rowsBeforeLast : Nat := 1

/-- The rows between the first and the last. A single row is not worth leaving out. -/
def between (e : Excerpt) (middle : List Row) : Painted :=
  let passing := List.flatMap fun r => e.row r .passes
  let first := middle.take rowsAfterFirst
  let rest := middle.drop rowsAfterFirst
  let hidden := rest.take (rest.length - rowsBeforeLast)
  if hidden.length ≤ 1 then passing middle
  else passing first ++ e.border "·" ++ e.bracket "│" ++ newline
    ++ passing (rest.drop hidden.length)

end Excerpt

/-- Columns for the largest of the line numbers. -/
def padding (source : Text) (s : Span) : Nat :=
  (Text.ofNat (max (rowAt source s.start).number (rowAt source s.stop).number)).length

/-- The place of the range, the rows it covers, and a border below them if notes follow. -/
def excerpt (severity : Severity) (name source : Text) (s : Span) (notesFollow : Bool) : Painted :=
  let first := rowAt source s.start
  let last := rowAt source s.stop
  let e : Excerpt := ⟨severity, padding source s⟩
  let single := first.number = last.number
  let space : Painted := e.border "│" ++ (if single then [] else [.text "  "]) ++ Excerpt.newline
  let locus := name ++ ":" ++ Text.ofNat first.number ++ ":" ++ Text.ofNat (first.column s.start)
  let start := s.start - first.start
  e.border "┌─" ++ [.text (" " ++ locus ++ "\n")] ++ space
    ++ (if single then e.row first (.within start (max (s.stop - first.start) (start + 1)))
      else
        e.row first (.opens start)
          ++ e.between ((rows source).filter fun r => first.number < r.number ∧ r.number < last.number)
          ++ e.row last (.closes (s.stop - last.start)))
    ++ if notesFollow then space else []

end Snippetry.Report
