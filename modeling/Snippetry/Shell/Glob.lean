import Snippetry.Process.Basic
import Snippetry.Shell.Pattern

/-! # The files that a pattern names -/
namespace Snippetry.Shell.Pattern

/-- The parts of a pattern between slashes. -/
def segments : Pattern → List Pattern
  | [] => [[]]
  | (c, literal) :: p =>
    if c = '/' then [] :: segments p
    else match segments p with
      | [] => [[(c, literal)]]
      | segment :: rest => ((c, literal) :: segment) :: rest

/-- The names in a directory that match; hidden ones only for a pattern that begins with a dot. -/
def namesIn (files : Files) (directory : Text) (p : Pattern) : List Text :=
  match files.node? (decodePath (if directory = [] then ['.'] else directory)) with
  | .error _ => []
  | .ok node =>
    let names := [['.'], ['.', '.']] ++ node.entries.map fun (name, _) => encodePath name
    let dotted := (settle p).head?.any fun (c, _) => c = '.'
    if node.isDirectory then
      names.filter fun name => (name.head? ≠ some '.' || dotted) && p.isMatch name
    else []

/-- The paths that the segments lead to after a start. -/
def pathsFrom (files : Files) (start : Text) : List Pattern → List Text
  | [] => []
  | [p] =>
    if hasWildcard p then (namesIn files start p).map (start ++ ·)
    else
      let path := start ++ plain (settle p)
      if files.isAt (fun _ => true) (decodePath path) then [path] else []
  | p :: q :: rest =>
    let starts :=
      if hasWildcard p then
        ((namesIn files start p).map (start ++ ·)).filter fun path =>
          files.isAt FileNode.isDirectory (decodePath path)
      else [start ++ plain (settle p)]
    starts.flatMap fun path => pathsFrom files (path ++ ['/']) (q :: rest)

def insertText (t : Text) : List Text → List Text
  | [] => [t]
  | u :: ts => if t < u then t :: u :: ts else u :: insertText t ts

/-- The paths of the files that match, in order. -/
def paths (files : Files) (p : Pattern) : List Text :=
  (pathsFrom files [] (segments p)).foldl (fun sorted t => insertText t sorted) []

end Snippetry.Shell.Pattern
