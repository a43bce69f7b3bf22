import Snippetry.Language
import Snippetry.Text.Basic

/-! # Snippets: fenced blocks of code taken from a document -/
namespace Snippetry

/-- The position of a snippet among those that are not libraries, counted from 1. -/
structure SnippetId where
  value : Nat
  positive : 0 < value
  /-- It has 32 bits. -/
  bounded : value < 4294967296
deriving DecidableEq

namespace SnippetId

def first : SnippetId := ⟨1, by decide, by decide⟩

/-- The largest number is its own successor. -/
def next (id : SnippetId) : SnippetId :=
  if h : id.value + 1 < 4294967296 then ⟨id.value + 1, Nat.succ_pos _, h⟩ else id

def toText (id : SnippetId) : Text := Text.ofNat id.value

end SnippetId

/-- A line of a body as written, and where it stands. -/
structure SourceLine where
  text : Text
  span : Span
deriving DecidableEq, Repr

/-- How far the includes of a snippet have been expanded. -/
inductive Resolution
  | unvisited
  | inProgress
  | resolved (lines : List Text)
deriving DecidableEq, Repr

structure Snippet where
  /-- Libraries have none. -/
  id : Option SnippetId
  language : Language
  name : Option Text
  aliasName : Option Text
  isLibrary : Bool
  /-- The body without the lines that name the snippet or make it a library. -/
  rawLines : List SourceLine
  resolution : Resolution
  span : Span
deriving DecidableEq

namespace Snippet

def resolvedLines? (s : Snippet) : Option (List Text) :=
  match s.resolution with
  | .resolved lines => some lines
  | _ => none

def isResolved (s : Snippet) : Bool := s.resolvedLines?.isSome

def answersTo (s : Snippet) (key : Text) : Bool := s.name = some key || s.aliasName = some key

/-- What a snippet is called in messages: its name, else its alias, else its number. -/
def label (s : Snippet) : Text :=
  match s.name, s.aliasName, s.id with
  | some name, _, _ => name
  | none, some aliasName, _ => aliasName
  | none, none, some id => '#' :: id.toText
  | none, none, none => "library at byte " ++ Text.ofNat s.span.start

/-- The expanded body, or the written one while it is not expanded. -/
def shownLines (s : Snippet) : List Text :=
  match s.resolution with
  | .resolved lines => lines
  | _ => s.rawLines.map SourceLine.text

end Snippet
end Snippetry
