import Snippetry.Markdown.Cursor
import Snippetry.Markdown.Html

/-! # How a line goes on with the blocks before it -/
namespace Snippetry.Markdown

/-- Whether a block starts here that ends an open paragraph. -/
def interrupts (t : Text) (sameContainer : Bool) : Bool :=
  (lineEnd? t).isSome || (thematicBreak? t).isSome || (heading? t).isSome || (codeFence? t).isSome
    || startsItem t sameContainer
    || match t with
      | '>' :: _ => true
      | '<' :: rest => (htmlTerminator? rest).isSome || startsBlockElement rest
      | _ => false

/-- Pass the markers of the containers at the start of a line; the flag tells whether all go on. -/
def enterLine (containers : List Container) (p : Place) : Bool × Cursor :=
  let (n, c) := Cursor.continueContainers containers (.ofPlace p)
  (n == containers.length, c)

/-- Where a line of a paragraph goes on with its text, unless it begins another block. -/
def resumeParagraph? (containers : List Container) (p : Place) : Option Place :=
  let (same, c) := enterLine containers p
  let (missing, c) := c.pass 4
  if missing ≠ 0 && (interrupts c.place.rest same || (same && (underline? c.place.rest).isSome)) then
    none
  else some c.place

end Snippetry.Markdown
