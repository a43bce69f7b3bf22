import Snippetry.Document
import Snippetry.Text.Basic

/-! # Selections: which snippets of a document the user asks for -/
namespace Snippetry

inductive SelectError
  | zeroId
  | invalidId (piece : Text)
  /-- `available` are the ids the document has. -/
  | unknownId (id : SnippetId) (available : List SnippetId)
deriving DecidableEq

namespace SelectError

def message : SelectError → Text
  | zeroId => "snippet ID must not be zero"
  | invalidId piece => "`" ++ piece ++ "` is not a snippet ID"
  | unknownId id available =>
    let listed : Text :=
      if available = [] then "none" else Text.join ", " (available.map SnippetId.toText)
    "snippet ID " ++ id.toText ++ " doesn't exist (available: " ++ listed ++ ")"

end SelectError

/-- Read a number from 1 to 2³² - 1; blanks around it and one plus sign do not count. -/
def SnippetId.parse (piece : Text) : Except SelectError SnippetId :=
  match Text.toBounded? 4294967295 (Text.trim piece) with
  | none => .error (.invalidId piece)
  | some n =>
    if h : 0 < n ∧ n < 4294967296 then .ok ⟨n, h.1, h.2⟩ else .error .zeroId

inductive Selection
  | all
  | ids (ids : List SnippetId)
deriving DecidableEq

namespace Selection

/-- `all`, or numbers separated by commas; the first piece that is no number decides the error. -/
def parse (t : Text) : Except SelectError Selection :=
  if Text.trim t = ("all" : Text) then .ok all
  else (Text.splitOn ',' t).mapM SnippetId.parse |>.map ids

end Selection

/-- The ids a selection stands for, in the order asked for. -/
def Document.select (d : Document) : Selection → Except SelectError (List SnippetId)
  | .all => .ok d.ids
  | .ids ids =>
    match ids.find? fun id => !d.ids.contains id with
    | some id => .error (.unknownId id d.ids)
    | none => .ok ids

end Snippetry
