import Snippetry.Run.Interpreter
import Snippetry.Run.Completion

/-! # Running jobs -/
namespace Snippetry

structure Execution where
  ending : Ending
  emissions : List Emission
  files : Files

namespace Machine

/-- Where the source of a snippet is put for interpreters that read it from a file. -/
def sourcePath (suffix : Text) : Text := "/tmp/mdexe-000000" ++ suffix

def withSource (files : Files) (suffix source : Text) : Files :=
  let names := (Text.splitOn '/' (sourcePath suffix)).filter (· ≠ [])
  { files with root := (FileNode.file (Utf8.encode source)).put names files.root }

/-- Whether the source goes into a file. -/
def needsFile (mode : RunMode) (i : Invocation) : Bool :=
  mode = .terminal || i.delivery ≠ .standardInput

/-- Start the interpreter of a job and supervise it to its end. -/
def execute (m : Machine) (mode : RunMode) (job : Job) : Execution :=
  let i := job.invocation
  let environment := childEnvironment m.environment job.env
  let written := needsFile mode i
  let files := if written then withSource m.files i.suffix job.source else m.files
  let logged : List Emission :=
    (if written then [.logged (.sourceWritten i.program (sourcePath i.suffix))] else [])
      ++ [.logged (.spawning i.program (mode = .terminal))]
  match Interpreter.spawnError? files environment i.program with
  | some reason => ⟨.failed (.spawn i.program reason), logged, m.files⟩
  | none =>
    let bytewise := Interpreter.bytewise
    let call : Interpreter.Call :=
      { program := bytewise i.program
        arguments := if written then (i.fileArguments (sourcePath i.suffix)).map bytewise else []
        environment := environment.map fun (key, value) => (bytewise key, bytewise value)
        input := if written then [] else bytewise job.source
        onTerminal := mode = .terminal }
    let (timeline, files) := call.carryOut files
    let timeline := if mode = .terminal then timeline.sorted.onTerminal else timeline.sorted
    let reading : Reading := if mode = .terminal then .together else .apart
    let (ending, emissions) :=
      timeline.supervised reading i.program job.timeout (job.cancelled.getD false)
    ⟨ending, logged ++ emissions, files⟩

theorem execute_ne_crashed (m : Machine) (mode : RunMode) {job : Job} (h : WithinReach job.timeout) :
    (m.execute mode job).ending ≠ .crashed := by
  simp only [execute]
  split
  · nofun
  · intro hcrashed
    obtain ⟨length, htimeout, hlt⟩ := Timeline.lt_of_supervised_crashed hcrashed
    have hle : length / 1000 ≤ lastSecond / 2 := h length htimeout
    omega

end Machine
end Snippetry
