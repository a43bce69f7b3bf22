import Snippetry.CommandLine.Show
import Snippetry.Run.Dispatch

/-! # Running snippets -/
namespace Snippetry.CommandLine

/-- The snippet and the header of its output, unless they are not wanted. -/
def RunArguments.announcement (args : RunArguments) (s : Snippet) : Text :=
  (if args.noShow then [] else snippetText s (!args.noHeaders) true)
    ++ if args.noHeaders then [] else s.header "RESULT"

def complaint (id : SnippetId) (o : Outcome) : Emission :=
  let snippet : Text := "snippet " ++ id.toText
  match o.termination, o.exitCode with
  | .timedOut, _ => errorLine (snippet ++ " timed out")
  | .cancelled, _ => errorLine (snippet ++ " was cancelled")
  | .exited, some 0 => .logged (.stderrWritten id.toText o.stderrBytes)
  | .exited, some n => errorLine (snippet ++ " exited with status " ++ Text.ofNat n)
  | .exited, none => errorLine (snippet ++ " was killed by a signal")

inductive Verdict
  | success
  | failure (e : Emission)
  | crash

def judge (noColor : Bool) (source : Report.SourceFile) (id : SnippetId) :
    Except IncludeError Ending → Verdict
  | .error e => .failure (report noColor source (e.diagnostic 0))
  | .ok .crashed => .crash
  | .ok (.failed e) => .failure (errorLine ("snippet " ++ id.toText ++ ": " ++ e.message))
  | .ok (.finished o) => if o.isSuccess then .success else .failure (complaint id o)

/-- What comes of running several snippets. -/
structure Tally (σ : Type) where
  failures : Nat
  crashed : Bool
  emissions : List Emission
  state : σ

section

variable {σ : Type} (host : Host σ) (args : RunArguments) (noColor : Bool) (l : Loaded)

/-- Run snippets in turn, whatever comes of those before. -/
def runEach : List SnippetId → Document → σ → Tally σ
  | [], _, state => ⟨0, false, [], state⟩
  | id :: ids, d, state =>
    let announced := ((d.get? id).map fun s => Emission.shown (args.announcement s)).toList
    let a := host.execute (args.options l.config) l.policy d id state
    let before := announced ++ a.emissions
    match judge noColor l.source id a.result with
    | .crash => ⟨1, true, before, a.state⟩
    | .success =>
      let rest := runEach ids a.document a.state
      { rest with emissions := before ++ rest.emissions }
    | .failure e =>
      let rest := runEach ids a.document a.state
      { rest with failures := rest.failures + 1, emissions := before ++ e :: rest.emissions }

/-- The first snippet is run unless others are selected. -/
def runDocument (state : σ) : Ended σ :=
  let d := l.document
  if args.document.dump then ⟨.code 0, [dumped d], state⟩
  else match d.select (args.document.ids.getD (.ids [.first])) with
    | .error e => ⟨.code 1, [errorLine e.message], state⟩
    | .ok ids =>
      let t := runEach host args noColor l ids d state
      if t.crashed then ⟨.crash, t.emissions, t.state⟩
      else if t.failures = 0 then ⟨.code 0, t.emissions, t.state⟩
      else ⟨.code 1, t.emissions ++ [.logged (.snippetsFailed t.failures)], t.state⟩

end

end Snippetry.CommandLine
