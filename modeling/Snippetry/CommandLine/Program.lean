import Snippetry.CommandLine.Run
import Snippetry.CommandLine.Test

/-! # The whole program -/
namespace Snippetry.CommandLine

variable {σ : Type} (host : Host σ)

/-- Load a document and go on with it, unless it cannot be loaded. -/
def loading (input : Bytes) (args : DocumentArguments) (noColor : Bool) (state : σ)
    (next : Loaded → Ended σ) : Ended σ :=
  match load host.blocks (host.files state) input args noColor with
  | (emissions, none) => ⟨.code 1, emissions, state⟩
  | (emissions, some l) =>
    let ended := next l
    { ended with emissions := emissions ++ ended.emissions }

def Request.carryOut (r : Request) (input : Bytes) (state : σ) : Ended σ :=
  match r.command with
  | .show args =>
    loading host input args.document r.noColor state fun l =>
      let (code, emissions) := showDocument args l.document
      ⟨.code code, emissions, state⟩
  | .list args =>
    loading host input args r.noColor state fun l =>
      let (code, emissions) := listDocument args l.document
      ⟨.code code, emissions, state⟩
  | .run args =>
    loading host input args.document r.noColor state fun l =>
      runDocument host args r.noColor l state
  | .test args =>
    if args.listCategories then ⟨.code 0, listCategories (host.files state) args.path, state⟩
    else runTests host r.noColor args state

/-- How the program ends, and the bytes on its standard output and standard error. -/
structure Result where
  exit : Exit
  output : Bytes
  errors : Bytes

/-- Carry out a command line, whose first word is the name of the program. -/
def program (words : List Text) (input : Bytes) (state : σ) : Except UsageError (Result × σ) := do
  let r ← Request.parse (insertCommand words)
  let ended := r.carryOut host input state
  let least := leastLevel r.verbosity
  .ok (⟨ended.exit, render least .out ended.emissions, render least .err ended.emissions⟩, ended.state)

end Snippetry.CommandLine
