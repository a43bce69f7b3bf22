import Snippetry.CommandLine.Load
import Snippetry.Outline
import Snippetry.Presentation

/-! # Showing and listing snippets -/
namespace Snippetry.CommandLine

def dumped (d : Document) : Emission := .shown (d.outline.layout 0 ++ ['\n'])

def snippetText (s : Snippet) (headers numbered : Bool) : Text :=
  (if headers then s.header "SNIPPET" else []) ++ s.body numbered

/-- The libraries, if they are asked for, and then the selected snippets. -/
def ShowArguments.snippets (args : ShowArguments) (d : Document) (ids : List SnippetId) :
    List Snippet :=
  (if args.libraries then d.libraries else []) ++ ids.filterMap d.get?

def showDocument (args : ShowArguments) (d : Document) : Nat × List Emission :=
  if args.document.dump then (0, [dumped d])
  else match d.select (args.document.ids.getD .all) with
    | .error e => (1, [errorLine e.message])
    | .ok ids =>
      (0, (args.snippets d ids).map fun s => .shown (snippetText s (!args.noHeaders) !args.noNumbers))

def listDocument (args : DocumentArguments) (d : Document) : Nat × List Emission :=
  (0, [if args.dump then dumped d else .shown d.listing])

end Snippetry.CommandLine
