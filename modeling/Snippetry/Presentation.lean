import Snippetry.Document
import Snippetry.Text.Basic

/-! # How snippets are shown -/
namespace Snippetry

namespace Snippet

def idText (s : Snippet) : Text :=
  match s.id with
  | some id => id.toText
  | none => "lib"

/-- A heading between two empty lines. -/
def header (s : Snippet) (tag : Text) : Text :=
  "\n## " ++ tag ++ ": ID:" ++ s.idText ++ " LANG:" ++ s.language.tag ++ " NAME:"
    ++ (s.name <|> s.aliasName).getD [] ++ "\n\n"

/-- A line number of two digits or more. -/
def lineNumberText (n : Nat) : Text := Text.padLeft '0' 2 (Text.ofNat n)

def numberLines (first : Nat) : List Text → List Text
  | [] => []
  | line :: lines => (lineNumberText first ++ ": " ++ line) :: numberLines (first + 1) lines

def body (s : Snippet) (numbered : Bool) : Text :=
  let lines := if numbered then numberLines 1 s.shownLines else s.shownLines
  lines.flatMap (· ++ ['\n'])

def listingRow (s : Snippet) : Text :=
  Text.padLeft ' ' 4 s.idText ++ "  " ++ Text.padRight 8 s.language.tag ++ " "
    ++ Text.padRight 16 (s.name.getD "-") ++ " " ++ s.aliasName.getD "-" ++ "\n"

end Snippet

/-- One row for each snippet. -/
def Document.listing (d : Document) : Text := d.snippets.flatMap Snippet.listingRow

end Snippetry
