import Snippetry.CommandLine.Program

/-! # The command line

The files that a request names are read beforehand. -/
namespace Snippetry

namespace CommandLine

def Request.paths (r : Request) : List Text :=
  match r.command with
  | .show args => ofDocument args.document
  | .run args => ofDocument args.document
  | .list args => ofDocument args
  | .test args => [args.path]
where
  ofDocument (args : DocumentArguments) : List Text :=
    args.config.getD Config.standardPath :: args.file.toList

def Request.readsInput (r : Request) : Bool :=
  match r.command with
  | .show args => fromInput args.document.file
  | .run args => fromInput args.document.file
  | .list args => fromInput args.file
  | .test _ => false

end CommandLine

namespace Main

def here : List Text := ["work"]

def emptyFiles : Files := ⟨(FileNode.directory []).put here Programs.system, here⟩

def addFile (files : Files) (path : Text) : IO Files := do
  try
    let content ← IO.FS.readBinFile (String.ofList path)
    pure (files.put (files.names path) (.file content.toList))
  catch _ => pure files

def inherited : List Text := ["HOME", "LANG", "LC_ALL", "PATH", "TERM", "USER"]

def environment : IO Table := do
  let entries ← inherited.mapM fun name => do
    pure ((← IO.getEnv (String.ofList name)).map fun value => (name, value.toList))
  pure (Table.insertAll [] (entries.filterMap id))

partial def readAll (input : IO.FS.Stream) (found : ByteArray) : IO ByteArray := do
  let bytes ← input.read 65536
  if bytes.isEmpty then pure found else readAll input (found ++ bytes)

def write (output : IO.FS.Stream) (bytes : Bytes) : IO Unit := do
  output.write ⟨bytes.toArray⟩
  output.flush

def usage : Bytes := Utf8.encode "usage: mdexe [show|run|list|test] [options] [file]\n"

/-- The status that the system sees of a program that was brought down. -/
def crashStatus : UInt32 := 101

def run (arguments : List String) : IO UInt32 := do
  let words := "mdexe".toList :: arguments.map String.toList
  let output ← IO.getStdout
  let errors ← IO.getStderr
  match CommandLine.Request.parse (CommandLine.insertCommand words) with
  | .error e =>
    write (if e.exitCode = 0 then output else errors) usage
    pure e.exitCode.toUInt32
  | .ok r =>
    let files ← r.paths.foldlM addFile emptyFiles
    let input ← if r.readsInput then readAll (← IO.getStdin) .empty else pure .empty
    let m : Machine := ⟨← environment, files⟩
    match CommandLine.program Machine.host words input.toList m with
    | .error e => pure e.exitCode.toUInt32
    | .ok (result, _) =>
      write output result.output
      write errors result.errors
      pure (match result.exit with
        | .code n => n.toUInt32
        | .crash => crashStatus)

end Main
end Snippetry

def main (arguments : List String) : IO UInt32 := Snippetry.Main.run arguments
