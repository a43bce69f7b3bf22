import Snippetry.Document
import Snippetry.Directive
import Snippetry.Log

/-! # Collecting snippets

A scanner of a source opens a draft for every block whose language is known, feeds it the lines of
the block and closes it; the collector numbers the snippets and keeps the warnings. -/
namespace Snippetry

/-- A snippet whose block is still open. -/
structure Draft where
  language : Language
  name : Option Text
  aliasName : Option Text
  isLibrary : Bool
  lines : List SourceLine
  start : Nat

namespace Draft

def ofLanguage (language : Language) (start : Nat) : Draft :=
  ⟨language, none, none, false, [], start⟩

/-- The last name counts, a blank one included; a blank alias leaves an earlier one in force. -/
def push (d : Draft) (line : SourceLine) : Draft :=
  match Directive.ofLine? line.text with
  | some (.name value) => { d with name := value }
  | some (.library value) =>
    { d with isLibrary := true, aliasName := value <|> d.aliasName }
  | none => { d with lines := d.lines ++ [line] }

end Draft

structure Collector where
  fileId : Nat
  nextId : SnippetId
  snippets : List Snippet
  notices : List Notice
  log : Log

namespace Collector

def empty (fileId : Nat) : Collector := ⟨fileId, .first, [], [], []⟩

/-- Start a draft, or warn that the block's language is not known. -/
def openBlock (c : Collector) (tag : Text) (span : Span) : Collector × Option Draft :=
  match Language.ofTag? tag with
  | none =>
    ({ c with
        notices := c.notices ++ [⟨.unknownLanguage tag, span, c.fileId⟩]
        log := c.log ++ [.blockIgnored tag] }, none)
  | some language =>
    ({ c with log := c.log ++ [.snippetOpens span.start language] },
      some (.ofLanguage language span.start))

/-- Only a snippet that is no library takes a number. -/
def close (c : Collector) (d : Draft) (stop : Nat) : Collector :=
  let snippet (id : Option SnippetId) : Snippet :=
    ⟨id, d.language, d.name, d.aliasName, d.isLibrary, d.lines, .unvisited, ⟨d.start, stop⟩⟩
  if d.isLibrary then { c with snippets := c.snippets ++ [snippet none] }
  else { c with snippets := c.snippets ++ [snippet (some c.nextId)], nextId := c.nextId.next }

def unterminated (c : Collector) (d : Draft) (stop : Nat) : Collector :=
  { c with notices := c.notices ++ [⟨.unterminatedFence, ⟨d.start, stop⟩, c.fileId⟩] }

def document (c : Collector) : Document := ⟨c.snippets, c.fileId, c.notices⟩

end Collector
end Snippetry
