import Snippetry.Markdown.Scan

/-! # A cursor on a line, which counts columns

A tab reaches to the next multiple of four columns; a part of it that is not passed yet is owed. -/
namespace Snippetry.Markdown

/-- A place in the source: what is left of it, and its byte offset. -/
structure Place where
  rest : Text
  offset : Nat

namespace Place

def advance (p : Place) (characters : Nat) : Place :=
  ⟨p.rest.drop characters, p.offset + Text.size (p.rest.take characters)⟩

end Place

/-- A block that other blocks stand in. -/
inductive Container
  | quote
  /-- A list whose markers end in `mark`. It is tight until a blank line parts what is in it. -/
  | list (tight : Bool) (mark : Char)
  | item (indent : Nat)
deriving DecidableEq, Repr

structure Cursor where
  place : Place
  sinceTab : Nat
  owed : Nat

namespace Cursor

def ofPlace (p : Place) : Cursor := ⟨p, 0, 0⟩

/-- Pass blanks while columns are wanted; returns how many are missing. -/
def passBlanks : Nat → Nat → Nat → Nat → Text → Nat × Cursor
  | wanted, offset, sinceTab, owed, [] => (wanted, ⟨⟨[], offset⟩, sinceTab, owed⟩)
  | wanted, offset, sinceTab, owed, c :: t =>
    if wanted = 0 then (0, ⟨⟨c :: t, offset⟩, sinceTab, owed⟩)
    else if c = ' ' then passBlanks (wanted - 1) (offset + 1) (sinceTab + 1) owed t
    else if c = '\t' then
      let width := 4 - sinceTab % 4
      passBlanks (wanted - min width wanted) (offset + 1) 0 (width - min width wanted) t
    else (wanted, ⟨⟨c :: t, offset⟩, sinceTab, owed⟩)

/-- Pass up to `columns` columns of blanks; returns how many are missing. -/
def pass (c : Cursor) (columns : Nat) : Nat × Cursor :=
  let used := min c.owed columns
  passBlanks (columns - used) c.place.offset c.sinceTab (c.owed - used) c.place.rest

def passAllBlanks (c : Cursor) : Cursor :=
  let blanks := run (fun d => d == ' ' || d == '\t') c.place.rest
  ⟨c.place.advance blanks, c.sinceTab + blanks, 0⟩

def atLineEnd (c : Cursor) : Bool := (lineEnd? c.place.rest).isSome

def next (c : Cursor) : Cursor := { c with place := c.place.advance 1, sinceTab := c.sinceTab + 1 }

/-- A quote marker takes one column of blanks with it. -/
def quoteMarker? (c : Cursor) : Option Cursor :=
  match c.place.rest with
  | '>' :: _ => some (c.next.pass 1).2
  | _ => none

/-- A list marker at column `indent`; returns the last character of the marker and the columns its
item is indented by. -/
def itemMarker? (c : Cursor) (indent : Nat) : Option (Char × Nat × Cursor) :=
  match listMarker? c.place.rest with
  | none => none
  | some marker =>
    if (thematicBreak? c.place.rest).isSome then none
    else
      let after : Cursor :=
        { c with place := c.place.advance marker.length, sinceTab := c.sinceTab + marker.length }
      let (missing, spaced) := after.pass 1
      if missing = 0 || spaced.atLineEnd then
        let own := indent + marker.length + 1
        if (blankLine? spaced.place.rest).isSome then some (marker.mark, own, spaced)
        else
          let (lacking, deeper) := spaced.pass 4
          if lacking = 0 then some (marker.mark, own, spaced)
          else some (marker.mark, own + (4 - lacking), deeper)
      else none

/-- Pass what continues the containers, outermost first; returns how many go on. -/
def continueContainers : List Container → Cursor → Nat × Cursor
  | [], c => (0, c)
  | .quote :: containers, c =>
    match (c.pass 3).2.quoteMarker? with
    | some inner =>
      let (n, last) := continueContainers containers inner
      (n + 1, last)
    | none => (0, c)
  | .list _ _ :: containers, c =>
    let (n, last) := continueContainers containers c
    (n + 1, last)
  | .item indent :: containers, c =>
    let (missing, inner) := c.pass indent
    if missing = 0 || inner.atLineEnd then
      let (n, last) := continueContainers containers inner
      (n + 1, last)
    else (0, c)

end Cursor

end Snippetry.Markdown
