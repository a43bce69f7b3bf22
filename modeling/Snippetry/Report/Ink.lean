import Snippetry.Notice

/-! # Text in colours -/
namespace Snippetry.Report

inductive Ink
  | heading (severity : Severity)
  | message
  /-- Line numbers, borders and the marks of notes. -/
  | border
  | label (severity : Severity)
deriving DecidableEq, Repr

def Ink.codes : Ink → Text
  | heading .warning => "\x1b[1m\x1b[38;5;11m"
  | heading .error => "\x1b[1m\x1b[38;5;9m"
  | message => "\x1b[1m"
  | border => "\x1b[36m"
  | label .warning => "\x1b[33m"
  | label .error => "\x1b[31m"

/-- Text, and changes of the ink it is written in. -/
inductive Piece
  | text (t : Text)
  | ink (i : Ink)
  | plain
deriving DecidableEq, Repr

def plainCode : Text := "\x1b[0m"

/-- Every change of ink begins at the plain one. -/
def Piece.toText (colored : Bool) : Piece → Text
  | .text t => t
  | .ink i => if colored then plainCode ++ i.codes else []
  | .plain => if colored then plainCode else []

abbrev Painted := List Piece

def Painted.toText (colored : Bool) (p : Painted) : Text := p.flatMap (Piece.toText colored)

def inked (ink : Ink) (t : Text) : Painted := [.ink ink, .text t, .plain]

/-- Write some of the parts in an ink, which changes only where it has to. -/
def marked (ink : Ink) : Bool → List (Text × Bool) → Painted
  | on, [] => if on then [.plain] else []
  | on, (t, mark) :: parts =>
    (if mark && !on then [.ink ink] else if !mark && on then [.plain] else [])
      ++ .text t :: marked ink mark parts

end Snippetry.Report
