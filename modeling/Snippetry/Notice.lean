import Snippetry.Language

/-! # Warnings about a document, and messages that point into sources -/
namespace Snippetry

/-- Why a warning is given. -/
inductive Notice.Cause
  | unknownLanguage (tag : Text)
  | unterminatedFence
  /-- No snippet answers to `name`, which the snippet called `includer` lists. -/
  | missingReference (name includer : Text)
deriving DecidableEq, Repr

structure Notice where
  cause : Notice.Cause
  span : Span
  fileId : Nat
deriving DecidableEq, Repr

def missingReferenceMessage (name includer : Text) : Text :=
  "`" ++ name ++ "` doesn't exist (included from " ++ includer ++ ")"

namespace Notice

def message (n : Notice) : Text :=
  match n.cause with
  | .unknownLanguage tag => "unknown language `" ++ tag ++ "`, fenced block ignored"
  | .unterminatedFence => "unterminated fence, snippet dropped"
  | .missingReference name includer => missingReferenceMessage name includer

def note (n : Notice) : Text :=
  match n.cause with
  | .unknownLanguage _ => "recognized tags: " ++ Language.recognizedTags
  | .unterminatedFence => "close the block with a line of three or more backticks"
  | .missingReference _ _ => "the reference was left out of the snippet"

end Notice

inductive Severity
  | warning
  | error
deriving DecidableEq, Repr

structure Place where
  fileId : Nat
  span : Span
deriving DecidableEq, Repr

structure Diagnostic where
  severity : Severity
  message : Text
  place : Option Place
  notes : List Text
deriving DecidableEq, Repr

def Notice.diagnostic (n : Notice) : Diagnostic :=
  ⟨.warning, n.message, some ⟨n.fileId, n.span⟩, [n.note]⟩

end Snippetry
