import Snippetry.Snippet

/-! # The names of a document's snippets, and the position each leads to -/
namespace Snippetry.Include

/-- Keys with positions; a key occurs once. -/
abbrev Index := List (Text × Nat)

namespace Index

/-- A key that is there keeps its position. -/
def insertNew (index : Index) (key : Text) (position : Nat) : Index :=
  match index.lookup key with
  | some _ => index
  | none => (key, position) :: index

def keys (s : Snippet) : List Text := s.name.toList ++ s.aliasName.toList

/-- Enter the names and aliases of snippets, the first of which is at `position`. -/
def extend (index : Index) (position : Nat) : List Snippet → Index
  | [] => index
  | s :: snippets =>
    extend ((keys s).foldl (fun index key => index.insertNew key position) index) (position + 1) snippets

/-- Of several snippets with one key the first is found. -/
def ofSnippets (snippets : List Snippet) : Index := extend [] 0 snippets

end Index
end Snippetry.Include
