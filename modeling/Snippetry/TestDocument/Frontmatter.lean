import Snippetry.Text.Basic

/-! # Frontmatter: the part of a test document between two lines of dashes -/
namespace Snippetry.TestDocument

inductive FrontmatterError
  | noOpening
  | noClosing
  /-- The part between the delimiters is no record of expectations. -/
  | malformed
deriving DecidableEq, Repr

def FrontmatterError.message : FrontmatterError → Text
  | noOpening => "missing opening --- frontmatter delimiter"
  | noClosing => "missing closing --- frontmatter delimiter"
  | malformed => "TOML parse error"

structure Parts where
  frontmatter : Text
  source : Text
deriving DecidableEq, Repr

def byteOrderMark : Char := '\ufeff'

/-- What follows a line end, if the text begins with one. -/
def afterLineEnd : Text → Text
  | '\n' :: t => t
  | '\r' :: '\n' :: t => t
  | t => t

/-- The delimiters are dashes at the start of the text, and those that first follow a newline. -/
def split (t : Text) : Except FrontmatterError Parts :=
  match ("---" : Text).isPrefixOf? (t.dropWhile (· = byteOrderMark)) with
  | none => .error .noOpening
  | some opened =>
    match Text.splitFirst? "\n---" (afterLineEnd opened) with
    | none => .error .noClosing
    | some (before, after) =>
      .ok ⟨(before.reverse.dropWhile (· = '\r')).reverse, afterLineEnd after⟩

end Snippetry.TestDocument
