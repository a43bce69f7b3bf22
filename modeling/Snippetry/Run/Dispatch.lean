import Snippetry.Include.Resolve
import Snippetry.Markdown.Block
import Snippetry.Run.Execute

/-! # Running the snippets of a document -/
namespace Snippetry

/-- What commands rely on: the files there are, a reader of CommonMark, and what carries out jobs. What a
run leaves behind for the next one is in the state. -/
structure Host (σ : Type) where
  files : σ → Files
  blocks : Text → List Markdown.FencedBlock
  run : RunMode → Job → σ → (Ending × List Emission) × σ
  /-- Only a time limit that is out of reach makes a job crash. -/
  run_ne_crashed : ∀ mode job state, WithinReach job.timeout → (run mode job state).1.1 ≠ .crashed

/-- The machine carries out jobs itself, and keeps the files that they leave behind. -/
def Machine.host : Host Machine where
  files := Machine.files
  blocks := Markdown.fencedBlocks
  run mode job m :=
    let e := m.execute mode job
    ((e.ending, e.emissions), { m with files := e.files })
  run_ne_crashed mode _ m h := m.execute_ne_crashed mode h

/-- What comes of expanding a snippet and running it. -/
structure Attempt (σ : Type) where
  result : Except IncludeError Ending
  emissions : List Emission
  document : Document
  state : σ

namespace Host

variable {σ : Type} (host : Host σ)

def dispatch (o : RunOptions) (s : Snippet) (state : σ) : (Ending × List Emission) × σ :=
  match o.prepare s with
  | .error e => ((.failed e, []), state)
  | .ok job => host.run o.mode job state

/-- Expand the snippet with an id, unless it is expanded already, and run it. -/
def execute (o : RunOptions) (policy : Include.MissingPolicy) (d : Document) (id : SnippetId)
    (state : σ) : Attempt σ :=
  let expanded := d.resolve policy (.id id)
  let logged := expanded.log.emissions
  let d := expanded.document
  match expanded.result with
  | .error e => ⟨.error e, logged, d, state⟩
  | .ok _ =>
    match d.get? id with
    | none => ⟨.ok (.failed (.unresolved ('#' :: id.toText))), logged, d, state⟩
    | some s =>
      let ((ending, emissions), state) := host.dispatch o s state
      ⟨.ok ending, logged ++ emissions, d, state⟩

variable {o : RunOptions} (h : WithinReach o.timeout)

include h

theorem dispatch_ne_crashed (s : Snippet) (state : σ) : (host.dispatch o s state).1.1 ≠ .crashed := by
  unfold dispatch
  split
  · nofun
  · next job hjob => exact host.run_ne_crashed o.mode job state (RunOptions.timeout_of_prepare hjob ▸ h)

theorem execute_ne_crashed (policy : Include.MissingPolicy) (d : Document) (id : SnippetId)
    (state : σ) : (host.execute o policy d id state).result ≠ .ok .crashed := by
  simp only [execute]
  split
  · nofun
  · split
    · nofun
    · next s _ =>
      intro hcrashed
      exact host.dispatch_ne_crashed h s state (Except.ok.inj hcrashed)

end Host
end Snippetry
