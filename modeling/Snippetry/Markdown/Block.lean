import Snippetry.Markdown.Nesting
import Snippetry.Markdown.Reference
import Snippetry.Markdown.FencedBlock
import Snippetry.Markdown.Info

/-! # The block structure of a Markdown source

A source is read line by line. Every line first continues the open containers, then opens new ones,
and what is left begins a leaf block, which takes as many lines as belong to it. Only fenced code
blocks are kept. -/
namespace Snippetry.Markdown

/-- What is left of a line after its containers. -/
inductive Opened
  /-- A new item with nothing on its line. -/
  | emptyItem (next : Place)
  | leaf (c : Cursor)

def openContainers (n : Nesting) (c : Cursor) : Nesting × Opened :=
  let (missing, indented) := c.pass 4
  if missing = 0 then (n, .leaf c)
  else match indented.itemMarker? (4 - missing) with
    | some (mark, indent, inner) =>
      let n := (n.enterList mark).enter (.item indent)
      match blankLine? inner.place.rest with
      | some length => ({ n with emptyItem := true }, .emptyItem (inner.place.advance length))
      | none =>
        if _shorter : inner.place.rest.length < c.place.rest.length then openContainers n inner
        else (n, .leaf inner)
    | none =>
      match indented.quoteMarker? with
      | some inner =>
        let n := n.leaveList.enter .quote
        if _shorter : inner.place.rest.length < c.place.rest.length then openContainers n inner
        else (n, .leaf inner)
      | none => (n, .leaf c)
termination_by c.place.rest.length

/-- Past an HTML block that lasts until a line holds `terminator`, or else until a blank line. -/
def skipHtml (containers : List Container) (terminator : Option Text) (p : Place) : Place :=
  let line := p.rest.take (lineLength p.rest)
  let next := p.advance line.length
  let (same, c) := enterLine containers next
  let ended := match terminator with
    | some terminator => Text.contains line terminator
    | none => c.atLineEnd || (blankLine? c.place.rest).isSome
  if !same || ended || c.place.rest.isEmpty then next
  else if _shorter : c.place.rest.length < p.rest.length then skipHtml containers terminator c.place
  else next
termination_by p.rest.length

def skipIndented (containers : List Container) (p : Place) : Place :=
  let next := p.advance (lineLength p.rest)
  let (same, c) := enterLine containers next
  let (missing, inner) := c.pass 4
  if !same || !(missing = 0 || inner.atLineEnd) || inner.place.rest.isEmpty then next
  else if _shorter : inner.place.rest.length < p.rest.length then skipIndented containers inner.place
  else next
termination_by p.rest.length

/-- Past a paragraph, or the heading it turns out to be. -/
def skipParagraph (containers : List Container) (p : Place) : Place :=
  let next := p.advance (visibleLineLength p.rest)
  let (same, c) := enterLine containers next
  let (missing, inner) := c.pass 4
  let heading := if missing ≠ 0 && same then underline? inner.place.rest else none
  match heading with
  | some n => inner.place.advance n
  | none =>
    let inner' := inner.passAllBlanks
    if (missing ≠ 0 && interrupts inner.place.rest same) || inner'.atLineEnd then next
    else if _shorter : inner'.place.rest.length < p.rest.length then
      skipParagraph containers inner'.place
    else next
termination_by p.rest.length

/-- Reference definitions, then the paragraph that may follow them without a blank line. -/
def skipText (containers : List Container) (p : Place) : Place :=
  match definitionEnd? containers p with
  | none => skipParagraph containers p
  | some q =>
    match blankLine? q.rest with
    | none => q
    | some n =>
      let next := q.advance n
      let (same, c) := enterLine containers next
      let (missing, inner) := c.pass 4
      let blank := (blankLine? inner.place.rest).isSome
      if blank || (missing ≠ 0 && interrupts inner.place.rest same) then next
      else
        let inner := inner.passAllBlanks
        if _shorter : inner.place.rest.length < p.rest.length then skipText containers inner.place
        else next
termination_by p.rest.length

/-- Read the leaf block that starts at the cursor: the fenced block it is, if it is one, and where
it ends. -/
def leaf (containers : List Container) (c : Cursor) : Option FencedBlock × Place :=
  let (missing, inner) := c.pass 4
  let indent := 4 - missing
  let p := inner.place
  if missing = 0 then (none, skipIndented containers p)
  else
    let html : Option (Option Text) := match p.rest with
      | '<' :: t =>
        match htmlTerminator? t with
        | some terminator => some (some terminator)
        | none => if startsBlockElement t || startsLoneTag t then some none else none
      | _ => none
    match html with
    | some terminator => (none, skipHtml containers terminator p)
    | none =>
      match thematicBreak? p.rest with
      | some n => (none, p.advance n)
      | none =>
        if (heading? p.rest).isSome then (none, p.advance (visibleLineLength p.rest))
        else match codeFence? p.rest with
          | some (length, mark) =>
            let afterFence := p.advance length
            let start := afterFence.advance (run isInlineBlank afterFence.rest)
            let lineLeft := start.rest.take (lineLength start.rest)
            let info := (lineLeft.reverse.dropWhile isAsciiBlank).reverse
            let (pieces, stop, next) :=
              codeLines containers indent mark length (start.advance lineLeft.length) []
            (some ⟨unescapeInfo info, pieces, ⟨p.offset, stop⟩⟩, next)
          | none => (none, skipText containers p)

/-- Read the block that starts with the line at `p`: the containers after it, the fenced block it is,
if it is one, and where it ends. -/
def block (nesting : Nesting) (p : Place) : Nesting × Option FencedBlock × Place :=
  let (n, c) := Cursor.continueContainers nesting.containers (.ofPlace p)
  match openContainers (nesting.leaveAllBut n) c with
  | (nesting, .emptyItem next) => (nesting, none, next)
  | (nesting, .leaf c) =>
    match blankLine? c.place.rest with
    | some length => (nesting.passBlankLine, none, c.place.advance length)
    | none =>
      let nesting := nesting.leaveList
      let (found, next) := leaf nesting.containers c
      (nesting, found, next)

/-- Read blocks until nothing is left. -/
def blocksFrom (nesting : Nesting) (p : Place) : List FencedBlock :=
  if p.rest.isEmpty then []
  else
    let (nesting, found, q) := block nesting p
    if _shorter : q.rest.length < p.rest.length then found.toList ++ blocksFrom nesting q
    else found.toList
termination_by p.rest.length

/-- The fenced code blocks of a source, in order. -/
def fencedBlocks (source : Text) : List FencedBlock := blocksFrom .top ⟨source, 0⟩

end Snippetry.Markdown
