import Snippetry.Snippet
import Snippetry.Notice

/-! # Documents: the snippets of one source, and what was noticed about them -/
namespace Snippetry

structure Document where
  snippets : List Snippet
  sourceId : Nat
  notices : List Notice
deriving DecidableEq

namespace Document

def get? (d : Document) (id : SnippetId) : Option Snippet :=
  d.snippets.find? fun s => s.id = some id

/-- The first snippet whose name or alias is `key`. -/
def find? (d : Document) (key : Text) : Option Snippet :=
  d.snippets.find? fun s => s.answersTo key

def ids (d : Document) : List SnippetId := d.snippets.filterMap Snippet.id

def libraries (d : Document) : List Snippet := d.snippets.filter Snippet.isLibrary

end Document
end Snippetry
