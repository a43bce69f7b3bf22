import Snippetry.CommandLine.Output
import Snippetry.CommandLine.Request
import Snippetry.Include.Resolve
import Snippetry.Report.Render

/-! # Loading a document: read, parse and expand, and report what is noticed -/
namespace Snippetry.CommandLine

/-- A document with all snippets expanded, and the settings it was loaded with. -/
structure Loaded where
  document : Document
  config : Config
  policy : Include.MissingPolicy
  source : Report.SourceFile

/-- Whether the document comes from standard input. -/
def fromInput (file : Option Text) : Bool := file = none || file = some ['-']

/-- The source with the name it is reported by. -/
def readSource (files : Files) (input : Bytes) (file : Option Text) :
    Except FileError Report.SourceFile :=
  match file with
  | none => stdin
  | some ['-'] => stdin
  | some path => do .ok ⟨path, ← files.read path⟩
where
  stdin : Except FileError Report.SourceFile :=
    match Utf8.decode? input with
    | some t => .ok ⟨"<stdin>", t⟩
    | none => .error .notUtf8

def report (noColor : Bool) (source : Report.SourceFile) (d : Diagnostic) : Emission :=
  .told (Report.render (!noColor) source d)

/-- The style and the policy: the arguments prevail over the configuration. -/
def DocumentArguments.style (args : DocumentArguments) (config : Config) : FenceStyle :=
  args.fences.getD config.fences

def DocumentArguments.policy (args : DocumentArguments) (config : Config) : Include.MissingPolicy :=
  if args.lenient then .lenient else config.missing

def expandSource (blocks : Text → List Markdown.FencedBlock) (args : DocumentArguments)
    (noColor : Bool) (config : Config) (source : Report.SourceFile) :
    List Emission × Option Loaded :=
  let c := Document.collectWith blocks (args.style config) 0 source.source
  let policy := args.policy config
  let expanded := c.document.resolveAll policy
  let emissions := (c.log ++ expanded.log).emissions
    ++ expanded.document.notices.map fun n => report noColor source n.diagnostic
  match expanded.result with
  | .ok () => (emissions, some ⟨expanded.document, config, policy, source⟩)
  | .error e => (emissions ++ [report noColor source (e.diagnostic 0)], none)

/-- What is shown on the way, and the document unless there was an error. -/
def load (blocks : Text → List Markdown.FencedBlock) (files : Files) (input : Bytes)
    (args : DocumentArguments) (noColor : Bool) : List Emission × Option Loaded :=
  let (config, log) := Config.load files args.config
  match config with
  | .error e => (log.emissions ++ [errorLine e.message], none)
  | .ok config =>
    match readSource files input args.file with
    | .error e =>
      (log.emissions ++
        [errorLine ("cannot read '" ++ args.file.getD ['-'] ++ "': " ++ e.message)], none)
    | .ok source =>
      let (emissions, loaded) := expandSource blocks args noColor config source
      (log.emissions ++ emissions, loaded)

end Snippetry.CommandLine
