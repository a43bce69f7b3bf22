import Snippetry.Text.Basic

/-! # Directive lines of a snippet body

A line that begins with `#%name:` or `#%lib` says something about its snippet and is no part of the
body. A line that begins with `#%inc:` stays in the body and lists the snippets to put in its place. -/
namespace Snippetry

inductive Directive
  /-- A blank value takes the name away. -/
  | name (value : Option Text)
  /-- Marks a library; the alias, if any, follows a colon. -/
  | library (aliasName : Option Text)
deriving DecidableEq, Repr

namespace Directive

def ofLine? (line : Text) : Option Directive :=
  match ("#%name:" : Text).isPrefixOf? line with
  | some value => some (name (Text.nonBlank? value))
  | none =>
    match ("#%lib" : Text).isPrefixOf? line with
    | some (':' :: value) => some (library (Text.nonBlank? value))
    | some _ => some (library none)
    | none => none

end Directive

/-- The names an include line lists; one that is blank counts. -/
def includeNames? (line : Text) : Option (List Text) :=
  (("#%inc:" : Text).isPrefixOf? line).map fun list => (Text.splitOn ',' list).map Text.trim

end Snippetry
