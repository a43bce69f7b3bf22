import Snippetry.Config
import Snippetry.TestDocument.Frontmatter

/-! # What a test document expects -/
namespace Snippetry.TestDocument

structure ExpectedWarning where
  /-- Part of the message. -/
  contains : Text
  /-- The line the warning points at. -/
  line : Option Nat

structure Expectations where
  description : Option Text
  /-- Snippets to run; all of them if it is not given. -/
  ids : Option Text
  env : Table
  lenient : Bool
  fences : FenceStyle
  snippets : Option Nat
  /-- What the selected snippets write to standard output. Without it none of them is run. -/
  output : Option Text
  /-- Part of the message when the snippets cannot be expanded. -/
  error : Option Text
  warnings : Option (List ExpectedWarning)

namespace Expectations

open Toml

def none : Expectations := ⟨.none, .none, [], false, .plain, .none, .none, .none, .none⟩

def decodeWarning (v : Value) : Option ExpectedWarning := do
  let fields ← v.record? ["contains", "line"]
  let contains ← fields.lookup ("contains" : Text)
  some ⟨← contains.text?, ← fields.get? "line" (·.nat?.map some) .none⟩

def decodeWarnings (v : Value) : Option (List ExpectedWarning) := do
  (← v.items?).mapM decodeWarning

/-- Any field may be left out, and there are no others. -/
def decode (fields : Fields) : Option Expectations := do
  let fields ← (Value.table .header fields).record? ["description", "ids", "env", "lenient", "fences",
    "expect_snippets", "expect_output", "expect_error", "expect_warnings"]
  some {
    description := ← fields.get? "description" (·.text?.map some) .none
    ids := ← fields.get? "ids" (·.text?.map some) .none
    env := ← fields.get? "env" Value.textTable? []
    lenient := ← fields.get? "lenient" Value.boolean? false
    fences := ← fields.get? "fences" (Value.choice? FenceStyle.names) .plain
    snippets := ← fields.get? "expect_snippets" (·.nat?.map some) .none
    output := ← fields.get? "expect_output" (·.text?.map some) .none
    error := ← fields.get? "expect_error" (·.text?.map some) .none
    warnings := ← fields.get? "expect_warnings" (fun v => (decodeWarnings v).map some) .none }

def policy (e : Expectations) : Include.MissingPolicy := if e.lenient then .lenient else .strict

/-- No snippet of a test document runs for longer, in milliseconds. -/
def longestRun : Nat := 30000

def options (e : Expectations) : RunOptions :=
  { RunOptions.default with env := e.env, timeout := some longestRun }

end Expectations

/-- The expectations of a test document and its source, with a reader of frontmatter. -/
def readWith (decode? : Text → Option Expectations) (t : Text) :
    Except FrontmatterError (Expectations × Text) := do
  let parts ← split t
  match decode? parts.frontmatter with
  | some e => .ok (e, parts.source)
  | none => .error .malformed

def read (t : Text) : Except FrontmatterError (Expectations × Text) :=
  readWith (fun t => do Expectations.decode (← Toml.parse? t)) t

end Snippetry.TestDocument
