import Snippetry.Document
import Snippetry.Text.Quoted

/-! # Outlines: everything a document holds, written out part by part -/
namespace Snippetry

/-- A nested description; every part of a record, a list or a bracketed value has lines of its
own. -/
inductive Outline
  | word (t : Text)
  | bracketed (name : Text) (value : Outline)
  | list (items : List Outline)
  | record (name : Text) (fields : List (Text × Outline))

namespace Outline

def indentation (depth : Nat) : Text := List.replicate (4 * depth) ' '

mutual

/-- The lines after the first one are indented by the depth. -/
def layout (depth : Nat) : Outline → Text
  | word t => t
  | bracketed name value =>
    name ++ "(\n" ++ indentation (depth + 1) ++ layout (depth + 1) value ++ ",\n"
      ++ indentation depth ++ ")"
  | list items =>
    if items.isEmpty then "[]" else "[\n" ++ layoutItems (depth + 1) items ++ indentation depth ++ "]"
  | record name fields =>
    name ++ " \x7b\n" ++ layoutFields (depth + 1) fields ++ indentation depth ++ "\x7d"

def layoutItems (depth : Nat) : List Outline → Text
  | [] => []
  | item :: items => indentation depth ++ layout depth item ++ ",\n" ++ layoutItems depth items

def layoutFields (depth : Nat) : List (Text × Outline) → Text
  | [] => []
  | (name, value) :: fields =>
    indentation depth ++ name ++ ": " ++ layout depth value ++ ",\n" ++ layoutFields depth fields

end

def ofNat (n : Nat) : Outline := word (Text.ofNat n)

def ofText (t : Text) : Outline := word (Text.quote t)

def ofBool (b : Bool) : Outline := word (if b then "true" else "false")

def ofOption {α : Type} (f : α → Outline) : Option α → Outline
  | none => word "None"
  | some a => bracketed "Some" (f a)

def ofSpan (s : Span) : Outline := word (Text.ofNat s.start ++ ".." ++ Text.ofNat s.stop)

end Outline

def SnippetId.outline (id : SnippetId) : Outline := .bracketed "SnippetId" (.ofNat id.value)

def Language.title : Language → Text
  | node => "Node"
  | sh => "Sh"
  | bash => "Bash"
  | zsh => "Zsh"
  | php => "Php"
  | perl => "Perl"
  | awk => "Awk"
  | gawk => "Gawk"
  | nawk => "Nawk"
  | python _ => "Python"

def Language.outline : Language → Outline
  | python tag => .bracketed "Python" (.ofText tag)
  | language => .word language.title

def SourceLine.outline (l : SourceLine) : Outline :=
  .record "SourceLine" [("text", .ofText l.text), ("span", .ofSpan l.span)]

def Resolution.outline : Resolution → Outline
  | unvisited => .word "Unvisited"
  | inProgress => .word "InProgress"
  | resolved lines => .bracketed "Resolved" (.list (lines.map .ofText))

def Snippet.outline (s : Snippet) : Outline :=
  .record "Snippet" [
    ("id", .ofOption SnippetId.outline s.id),
    ("language", s.language.outline),
    ("name", .ofOption .ofText s.name),
    ("alias", .ofOption .ofText s.aliasName),
    ("is_library", .ofBool s.isLibrary),
    ("raw_lines", .list (s.rawLines.map SourceLine.outline)),
    ("resolution", s.resolution.outline),
    ("span", .ofSpan s.span)]

/-- Every notice is a warning. -/
def Notice.outline (n : Notice) : Outline :=
  .record "Notice" [
    ("message", .ofText n.message),
    ("span", .ofSpan n.span),
    ("file_id", .ofNat n.fileId),
    ("severity", .word "Warning"),
    ("notes", .list [.ofText n.note])]

def Document.outline (d : Document) : Outline :=
  .record "Document" [
    ("snippets", .list (d.snippets.map Snippet.outline)),
    ("source_id", .ofNat d.sourceId),
    ("notices", .list (d.notices.map Notice.outline))]

end Snippetry
