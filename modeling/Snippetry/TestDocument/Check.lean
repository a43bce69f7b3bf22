import Snippetry.Run.Dispatch
import Snippetry.Selection
import Snippetry.TestDocument.Expectations
import Snippetry.Text.Line

/-! # Checking a test document against its expectations -/
namespace Snippetry.TestDocument

theorem Expectations.options_withinReach (e : Expectations) : WithinReach e.options.timeout := by
  rintro _ ⟨⟩
  decide

/-- The first expectation that does not hold. -/
inductive Mismatch
  | snippets (expected found : Nat)
  | wrongError (expected message : Text)
  | noError (expected : Text)
  | unexpectedError (message : Text)
  | malformedIds (e : SelectError)
  | unknownIds (e : SelectError)
  | notRun (id : SnippetId) (message : Text)
  | runFailed (id : SnippetId) (o : Outcome) (errors : Text)
  | output (expected found : Text)
  | warnings (expected : Nat) (messages : List Text)
  | warningText (position : Nat) (expected message : Text)
  | warningLine (position expected found : Nat)

namespace Mismatch

def exitWord : Option Nat → Text
  | some n => "Some(" ++ Text.ofNat n ++ ")"
  | none => "None"

def message : Mismatch → Text
  | snippets expected found =>
    "expected " ++ Text.ofNat expected ++ " snippet(s), found " ++ Text.ofNat found
  | wrongError expected message =>
    "expected error containing \"" ++ expected ++ "\", got: " ++ message
  | noError expected =>
    "expected error containing \"" ++ expected ++ "\", but resolution succeeded"
  | unexpectedError message => "unexpected error: " ++ message
  | malformedIds e => "invalid ids: " ++ e.message
  | unknownIds e => e.message
  | notRun id message => "snippet " ++ id.toText ++ ": " ++ message
  | runFailed id o errors =>
    "snippet " ++ id.toText ++ " failed (" ++ o.termination.word ++ ", exit " ++ exitWord o.exitCode
      ++ ")\n" ++ Text.trimEnd errors
  | output expected found =>
    "output mismatch\n  expected: " ++ expected ++ "\n  actual:   " ++ found
  | warnings expected messages =>
    let listed : Text :=
      if messages = [] then "    (none)" else Text.join ['\n'] (messages.map ("  - " ++ ·))
    "expected " ++ Text.ofNat expected ++ " warning(s), got " ++ Text.ofNat messages.length
      ++ "\n  actual warnings:\n" ++ listed
  | warningText position expected message =>
    "warning[" ++ Text.ofNat position ++ "]: expected message containing \"" ++ expected
      ++ "\", got: " ++ message
  | warningLine position expected found =>
    "warning[" ++ Text.ofNat position ++ "]: expected on line " ++ Text.ofNat expected
      ++ ", but span is on line " ++ Text.ofNat found

end Mismatch

def checkSnippets (e : Expectations) (d : Document) : Except Mismatch Unit :=
  match e.snippets with
  | none => .ok ()
  | some expected =>
    if d.snippets.length = expected then .ok () else .error (.snippets expected d.snippets.length)

def checkExpansion (e : Expectations) (result : Except IncludeError Unit) : Except Mismatch Unit :=
  match e.error, result with
  | some expected, .error found =>
    if Text.contains found.message expected then .ok ()
    else .error (.wrongError expected found.message)
  | some expected, .ok () => .error (.noError expected)
  | none, .error found => .error (.unexpectedError found.message)
  | none, .ok () => .ok ()

def checkWarning (source : Text) (position : Nat) (expected : ExpectedWarning) (n : Notice) :
    Except Mismatch Unit :=
  if ¬ Text.contains n.message expected.contains then
    .error (.warningText position expected.contains n.message)
  else match expected.line with
    | none => .ok ()
    | some line =>
      let found := Text.lineNumber source n.span.start
      if found = line then .ok () else .error (.warningLine position line found)

def checkEachWarning (source : Text) (position : Nat) :
    List ExpectedWarning → List Notice → Except Mismatch Unit
  | expected :: rest, n :: notices => do
    checkWarning source position expected n
    checkEachWarning source (position + 1) rest notices
  | _, _ => .ok ()

def checkWarnings (e : Expectations) (source : Text) (notices : List Notice) :
    Except Mismatch Unit :=
  match e.warnings with
  | none => .ok ()
  | some expected =>
    if notices.length = expected.length then checkEachWarning source 0 expected notices
    else .error (.warnings expected.length (notices.map Notice.message))

/-- Both texts without blanks around them. -/
def checkOutput (expected found : Text) : Except Mismatch Unit :=
  if Text.trim found = Text.trim expected then .ok ()
  else .error (.output (Text.trim expected) (Text.trim found))

/-- How far a test document is checked. -/
structure Progress (σ : Type) where
  result : Except Mismatch Bytes
  log : List Emission
  document : Document
  state : σ

section

variable {σ : Type} (host : Host σ)

/-- The output of a run, unless it fails. -/
def judge (id : SnippetId) (result : Except IncludeError Ending) (stays : result ≠ .ok .crashed)
    (emissions : List Emission) : Except Mismatch Bytes :=
  match result, stays with
  | .error e, _ => .error (.notRun id e.message)
  | .ok (.failed e), _ => .error (.notRun id e.message)
  | .ok .crashed, stays => absurd rfl stays
  | .ok (.finished o), _ =>
    if o.termination = .exited ∧ o.exitCode = some 0 then .ok (streamBytes .out emissions)
    else .error (.runFailed id o (Utf8.decodeLossy (streamBytes .err emissions)))

/-- Run a snippet and take what it writes. -/
def runOne (e : Expectations) (id : SnippetId) (d : Document) (state : σ) : Progress σ :=
  let a := host.execute e.options e.policy d id state
  have stays := host.execute_ne_crashed e.options_withinReach e.policy d id state
  ⟨judge id a.result stays a.emissions, a.emissions.filter Emission.isLogged, a.document, a.state⟩

/-- Run snippets in turn, up to the first that fails, and collect what they write. -/
def runEach (e : Expectations) : List SnippetId → Document → σ → Progress σ
  | [], d, state => ⟨.ok [], [], d, state⟩
  | id :: ids, d, state =>
    let first := runOne host e id d state
    match first.result with
    | .error _ => first
    | .ok bytes =>
      let rest := runEach e ids first.document first.state
      ⟨rest.result.map (bytes ++ ·), first.log ++ rest.log, rest.document, rest.state⟩

def requestedIds (e : Expectations) (d : Document) : Except Mismatch (List SnippetId) :=
  match e.ids with
  | none => .ok d.ids
  | some t =>
    match Selection.parse t with
    | .error found => .error (.malformedIds found)
    | .ok selection =>
      match d.select selection with
      | .error found => .error (.unknownIds found)
      | .ok ids => .ok ids

def runSelected (e : Expectations) (d : Document) (state : σ) : Progress σ :=
  match requestedIds e d with
  | .error m => ⟨.error m, [], d, state⟩
  | .ok ids => runEach host e ids d state

/-- What comes of checking a test document. -/
structure Checked (σ : Type) where
  result : Except Mismatch Unit
  log : List Emission
  state : σ

def checkRun (e : Expectations) (source : Text) (d : Document) (state : σ) : Checked σ :=
  match e.output with
  | none => ⟨checkWarnings e source d.notices, [], state⟩
  | some expected =>
    let p := runSelected host e d state
    let result := do
      checkOutput expected (Utf8.decodeLossy (← p.result))
      checkWarnings e source p.document.notices
    ⟨result, p.log, p.state⟩

/-- Check the expectations one after another, up to the first that does not hold. -/
def check (e : Expectations) (source : Text) (state : σ) : Checked σ :=
  let c := Document.collectWith host.blocks e.fences 0 source
  match checkSnippets e c.document with
  | .error m => ⟨.error m, c.log.emissions, state⟩
  | .ok () =>
    let expanded := c.document.resolveAll e.policy
    let log := (c.log ++ expanded.log).emissions
    match checkExpansion e expanded.result with
    | .error m => ⟨.error m, log, state⟩
    | .ok () =>
      let rest := checkRun host e source expanded.document state
      { rest with log := log ++ rest.log }

end

end Snippetry.TestDocument
