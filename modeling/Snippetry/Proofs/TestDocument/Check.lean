import Snippetry.Proofs.CommandLine.Run
import Snippetry.Proofs.Text.Occurrences

/-! # Checking a test document: it passes if what it expects is the case

Each expectation is said without reference to the order in which they are checked, and so is what comes
of the snippets that are run: every one is expanded from the document that the one before has left
behind, and exits with 0. A document that is expanded as a whole is still the same after a run. -/
namespace Snippetry.TestDocument

open Include

/-! ## One expectation at a time -/

section Expected

variable {e : Expectations}

/-- The warning has a text in its message, and points to a line if one is given. -/
structure Describes (source : Text) (w : ExpectedWarning) (n : Notice) : Prop where
  contains : w.contains <:+: n.message
  line : ∀ line ∈ w.line, Text.lineNumber source n.span.start = line

theorem checkWarning_eq_ok_iff {source : Text} {position : Nat} {w : ExpectedWarning} {n : Notice} :
    checkWarning source position w n = .ok () ↔ Describes source w n := by
  have hdescribes : Describes source w n ↔ Text.contains n.message w.contains = true
      ∧ ∀ line ∈ w.line, Text.lineNumber source n.span.start = line := by
    rw [Text.contains_iff]
    exact ⟨fun h => ⟨h.contains, h.line⟩, fun h => ⟨h.1, h.2⟩⟩
  rw [hdescribes, checkWarning]
  by_cases hcontains : Text.contains n.message w.contains = true
  · cases w.line with
    | none => simp [hcontains]
    | some line =>
      by_cases hline : Text.lineNumber source n.span.start = line <;> simp [hcontains, hline]
  · simp [hcontains]

end Expected

/-! ## The run -/

section Running

variable {σ : Type} (host : Host σ) (e : Expectations)

inductive Requests (d : Document) : List SnippetId → Prop
  | default (notGiven : e.ids = none) : Requests d d.ids
  | all {t : Text} (given : e.ids = some t) (parsed : Selection.parse t = .ok .all) : Requests d d.ids
  | ids {t : Text} {ids : List SnippetId} (given : e.ids = some t)
      (parsed : Selection.parse t = .ok (.ids ids)) (known : ∀ id ∈ ids, id ∈ d.ids) : Requests d ids

inductive Exits (d : Document) (id : SnippetId) (state : σ) : List Emission → σ → Prop
  | intro {lines : List Text} {s : Snippet} {job : Job} {o : Outcome} {emissions : List Emission}
      {after : σ} (expands : (d.resolve e.policy (.id id)).result = .ok lines)
      (found : (d.resolve e.policy (.id id)).document.get? id = some s)
      (prepared : e.options.prepare s = .ok job)
      (ran : host.run e.options.mode job state = ((.finished o, emissions), after))
      (exited : o.termination = .exited) (code : o.exitCode = some 0) : Exits d id state emissions after

/-- Snippets that are run one after the other, with all that they write to standard output and the
document at the end. -/
inductive Runs : List SnippetId → Document → σ → Bytes → Document → Prop
  | nil {d : Document} {state : σ} : Runs [] d state [] d
  | cons {id : SnippetId} {ids : List SnippetId} {d last : Document} {state after : σ}
      {emissions : List Emission} {bytes : Bytes} (exits : Exits host e d id state emissions after)
      (rest : Runs ids (d.resolve e.policy (.id id)).document after bytes last) :
      Runs (id :: ids) d state (streamBytes .out emissions ++ bytes) last

variable {host e}

theorem Requests.mem {d : Document} {ids : List SnippetId} (h : Requests e d ids) :
    ∀ id ∈ ids, id ∈ d.ids := by
  cases h with
  | default => exact fun _ hid => hid
  | all => exact fun _ hid => hid
  | ids _ _ known => exact known

section One

variable {id : SnippetId} {d : Document} {state : σ}

end One

end Running

/-! ## The whole check -/

section Checking

variable {σ : Type} (host : Host σ) (e : Expectations) (source : Text)

/-- If an output is expected, the requested snippets are run and write it, but for blanks around it; with
the document after that. -/
inductive Writes (d : Document) (state : σ) : Document → Prop
  | unexpected (notGiven : e.output = none) : Writes d state d
  | expected {output : Text} {ids : List SnippetId} {bytes : Bytes} {last : Document}
      (given : e.output = some output) (requests : Requests e d ids)
      (runs : Runs host e ids d state bytes last)
      (written : Text.trim (Utf8.decodeLossy bytes) = Text.trim output) : Writes d state last

/-- The test document as it is read, and as it is after an attempt to expand it as a whole. -/
def readSource : Document := Document.readWith host.blocks e.fences 0 source

variable {host e source}

end Checking
end Snippetry.TestDocument
