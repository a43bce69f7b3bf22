import Snippetry.Shell.Pattern

/-! # Fields: how expanded words are cut -/
namespace Snippetry.Shell

/-- An element of an expanded word. -/
inductive Glyph
  /-- A character, and whether it stands for itself only. -/
  | char (c : Char) (literal : Bool)
  /-- A quotation mark, which makes a field even if there is nothing in it. -/
  | mark
deriving DecidableEq, Repr

/-- Where a piece of an expanded word may be cut. -/
inductive Cut
  | nowhere
  | atSeparators
  /-- Between arguments only, where there is a zero byte. -/
  | atGaps
deriving DecidableEq, Repr

structure Piece where
  cut : Cut
  glyphs : List Glyph

def gap : Char := '\x00'

namespace Glyph

def ofText (literal : Bool) (t : Text) : List Glyph := t.map (.char · literal)

def pattern (gs : List Glyph) : Pattern :=
  gs.filterMap fun g => match g with
    | .char c literal => some (c, literal)
    | .mark => none

def text (gs : List Glyph) : Text := (pattern gs).map Prod.fst

end Glyph

/-- Cutting in progress. What is collected comes latest first. -/
structure Cutting where
  fields : List (List Glyph)
  current : List Glyph
  /-- Whether blanks are passed over after the end of a field. -/
  skipping : Bool
  /-- How many fields may still be made; the last one takes all that is left. -/
  left : Option Nat
  /-- What the last field is without the separators at its end. -/
  trimmed : Option (List Glyph)
  /-- Whether the piece before the last one was cut at gaps, and the last one. -/
  afterGaps : Bool
  atGaps : Bool

namespace Cutting

def start (most : Option Nat) : Cutting := ⟨[], [], false, most, none, false, false⟩

def endField (s : Cutting) : Cutting :=
  { s with fields := s.current :: s.fields, current := [] }

def push (s : Cutting) (g : Glyph) : Cutting := { s with current := g :: s.current }

/-- Blanks between fields count as one separator, together with one other. -/
def step (separators : Text) (s : Cutting) (g : Glyph) : Cutting :=
  match g with
  | .mark => s.push g
  | .char c _ =>
    let separates := c = gap || c ∈ separators
    let isBlank := separates && (c = gap || c = ' ' || c = '\t' || c = '\n')
    if s.left = some 0 then
      if isBlank then { s with trimmed := s.trimmed <|> some s.current }.push g
      else
        let trimmed := if separates && s.skipping then s.trimmed else none
        { s with trimmed, skipping := false }.push g
    else if s.skipping then
      if isBlank then { s with current := [] }
      else if separates then { s with current := [], skipping := false }
      else { s with current := [g], skipping := false }
    else if separates then
      let skipping := if s.afterGaps || s.atGaps then s.skipping else isBlank
      if s.current = [] && skipping then { s with skipping := false }
      else match s.left with
        | some 1 => { s with skipping, left := some 0, trimmed := some s.current }.push g
        | left => { s with skipping, left := left.map (· - 1) }.endField
    else { s with skipping := false }.push g

def piece (separators : Text) (s : Cutting) (p : Piece) : Cutting :=
  match p.cut with
  | .nowhere => { s with current := p.glyphs.reverse ++ s.current }
  | .atSeparators =>
    p.glyphs.foldl (step separators)
      { s with skipping := false, afterGaps := s.atGaps, atGaps := false }
  | .atGaps =>
    p.glyphs.foldl (step []) { s with skipping := false, afterGaps := s.atGaps, atGaps := true }

def finish (s : Cutting) : List (List Glyph) :=
  let last := s.trimmed.getD s.current
  ((if last = [] && !s.atGaps then s.fields else last :: s.fields).reverse).map List.reverse

end Cutting

/-- The fields of an expanded word, at most so many. -/
def fieldsOf (separators : Text) (most : Option Nat) (pieces : List Piece) : List (List Glyph) :=
  (pieces.foldl (Cutting.piece separators) (Cutting.start most)).finish

end Snippetry.Shell
