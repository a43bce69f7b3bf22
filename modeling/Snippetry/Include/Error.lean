import Snippetry.Snippet
import Snippetry.Notice

/-! # Why a snippet cannot be expanded -/
namespace Snippetry

inductive Target
  | id (id : SnippetId)
  | name (key : Text)
deriving DecidableEq

def Target.toText (t : Target) : Text :=
  match t with
  | .id number => "ID " ++ number.toText
  | .name key => "name `" ++ key ++ "`"

inductive IncludeError
  /-- No snippet answers to `name`, listed by the snippet called `includer`. -/
  | missing (name includer : Text) (span : Span)
  /-- `chain` leads from the expanded snippet to `name`, which is on it already. -/
  | cyclic (name : Text) (chain : List Text) (span : Span)
  | unknownTarget (target : Target)
deriving DecidableEq

namespace IncludeError

def chainText (chain : List Text) : Text := Text.join " -> " chain

def message : IncludeError → Text
  | missing name includer _ => missingReferenceMessage name includer
  | cyclic name chain _ => "`" ++ name ++ "` is included recursively: " ++ chainText chain
  | unknownTarget target => "no snippet with " ++ target.toText

/-- The line that asks for what cannot be had. -/
def span? : IncludeError → Option Span
  | missing _ _ span => some span
  | cyclic _ _ span => some span
  | unknownTarget _ => none

def notes : IncludeError → List Text
  | cyclic _ chain _ => ["include chain: " ++ chainText chain]
  | _ => []

def diagnostic (e : IncludeError) (fileId : Nat) : Diagnostic :=
  ⟨.error, e.message, e.span?.map (⟨fileId, ·⟩), e.notes⟩

end IncludeError
end Snippetry
