import Snippetry.Fence.Collector
import Snippetry.Markdown.FencedBlock
import Snippetry.Text.Basic
import Snippetry.Text.Word
import Snippetry.Text.Line

/-! # Matched fences

The fenced code blocks of the CommonMark reading. Their text comes in pieces, which are put together
to lines again. -/
namespace Snippetry.Matched

/-- A line that is not complete, and where it started. -/
structure LineBuffer where
  text : Text
  start : Option Nat
deriving DecidableEq, Repr

/-- A draft, and the line being put together. -/
structure Assembly where
  draft : Draft
  line : LineBuffer

namespace Assembly

def start (draft : Draft) : Assembly := ⟨draft, [], none⟩

/-- Take part of a piece without an inner line end. -/
def pushPart (a : Assembly) (offset : Nat) (part : Text) : Assembly :=
  let start := a.line.start.getD offset
  match part.getLast? with
  | some '\n' =>
    let text := a.line.text ++ Text.chopEnd '\r' part.dropLast
    ⟨a.draft.push ⟨text, ⟨start, offset + part.size - 1⟩⟩, [], none⟩
  | _ => ⟨a.draft, a.line.text ++ part, some start⟩

def pushParts (a : Assembly) (offset : Nat) : List Text → Assembly
  | [] => a
  | part :: parts => (a.pushPart offset part).pushParts (offset + part.size) parts

def push (a : Assembly) (piece : Markdown.Piece) : Assembly :=
  a.pushParts piece.start (Text.cutLines piece.text)

/-- A line without an end is a line of the body all the same. -/
def finish (a : Assembly) : Draft :=
  match a.line.start with
  | none => a.draft
  | some start => a.draft.push ⟨a.line.text, ⟨start, start + a.line.text.size⟩⟩

end Assembly

/-- A block without a tag is ignored silently. -/
def collect (c : Collector) (block : Markdown.FencedBlock) : Collector :=
  match Text.word? (Text.trimStart block.info) with
  | none => c
  | some tag =>
    match c.openBlock tag block.span with
    | (c, none) => c
    | (c, some draft) =>
      c.close (block.pieces.foldl Assembly.push (.start draft)).finish block.span.stop

/-- Take in the blocks of a source, whichever way they are found. -/
def scan (fileId : Nat) (blocks : List Markdown.FencedBlock) : Collector :=
  blocks.foldl collect (.empty fileId)

end Snippetry.Matched
