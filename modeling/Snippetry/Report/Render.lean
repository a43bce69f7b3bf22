import Snippetry.Report.Excerpt

/-! # Diagnostics as they are shown to the user -/
namespace Snippetry.Report

structure SourceFile where
  name : Text
  source : Text

def severityWord : Severity → Text
  | .warning => "warning"
  | .error => "error"

def heading (d : Diagnostic) : Painted :=
  [.ink (.heading d.severity), .text (severityWord d.severity), .ink .message,
   .text (": " ++ d.message), .plain, .text "\n"]

def note (padding : Nat) (t : Text) : Painted :=
  .text (List.replicate (padding + 1) ' ') :: inked .border "=" ++ [.text (" " ++ t ++ "\n")]

/-- Heading, excerpt and notes, and an empty line. -/
def paint (file : SourceFile) (d : Diagnostic) : Painted :=
  let body : Painted := match d.place with
    | none => d.notes.flatMap (note 0)
    | some place =>
      excerpt d.severity file.name file.source place.span (!d.notes.isEmpty)
        ++ d.notes.flatMap (note (padding file.source place.span))
  heading d ++ body ++ [.text "\n"]

def render (colored : Bool) (file : SourceFile) (d : Diagnostic) : Text :=
  Painted.toText colored (paint file d)

end Snippetry.Report
