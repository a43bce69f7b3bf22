import Snippetry.Files
import Snippetry.Log
import Snippetry.Reading
import Snippetry.Include.Walk
import Snippetry.Run.Job
import Snippetry.Toml.Decode

/-! # The configuration file -/
namespace Snippetry

structure Config where
  fences : FenceStyle
  missing : Include.MissingPolicy
  mode : RunMode
  unbuffered : Bool
  timeoutSeconds : Option Nat
  /-- Variables for every interpreter. -/
  env : Table
  /-- Programs to use in place of the interpreters of the canonical tags. -/
  interpreters : Table

inductive ConfigError
  | unreadable (path : Text) (reason : FileError)
  | invalid (path : Text)
deriving DecidableEq, Repr

namespace ConfigError

def message : ConfigError → Text
  | unreadable path reason => "cannot read '" ++ path ++ "': " ++ reason.message
  | invalid path => "invalid config '" ++ path ++ "'"

end ConfigError

def FenceStyle.names : List (Text × FenceStyle) := [("compat", .plain), ("commonmark", .matched)]

namespace Config

open Toml

def default : Config := ⟨.plain, .strict, .pipeline, false, none, [], []⟩

def missingNames : List (Text × Include.MissingPolicy) :=
  [("strict", .strict), ("lenient", .lenient)]

def modeNames : List (Text × RunMode) := [("pipeline", .pipeline), ("tempfile", .terminal)]

/-- Lay the record of run settings over a configuration. -/
def decodeRun (c : Config) (v : Value) : Option Config := do
  let fields ← v.record? ["mode", "unbuffered", "timeout_secs"]
  some { c with
    mode := ← fields.get? "mode" (Value.choice? modeNames) c.mode
    unbuffered := ← fields.get? "unbuffered" Value.boolean? c.unbuffered
    timeoutSeconds := ← fields.get? "timeout_secs" (·.nat?.map some) c.timeoutSeconds }

/-- A configuration may leave out any field, and has no others. -/
def decode (fields : Fields) : Option Config := do
  let fields ← (Value.table .header fields).record? ["fences", "missing", "run", "env", "interpreters"]
  let c : Config := { default with
    fences := ← fields.get? "fences" (Value.choice? FenceStyle.names) default.fences
    missing := ← fields.get? "missing" (Value.choice? missingNames) default.missing
    env := ← fields.get? "env" Value.textTable? default.env
    interpreters := ← fields.get? "interpreters" Value.textTable? default.interpreters }
  fields.get? "run" c.decodeRun c

def parse? (t : Text) : Option Config := do decode (← Toml.parse? t)

/-- Read when no other file is asked for, if it is there. -/
def standardPath : Text := "mdexe.toml"

/-- The path to read: the one asked for, or the standard one if it is a file. -/
def path? (files : Files) (explicit : Option Text) : Option Text :=
  match explicit with
  | some path => some path
  | none => if files.isFile standardPath then some standardPath else none

def readFrom (files : Files) (path : Text) : Except ConfigError Config :=
  match files.read path with
  | .error reason => .error (.unreadable path reason)
  | .ok t =>
    match parse? t with
    | none => .error (.invalid path)
    | some c => .ok c

/-- The configuration, and what is logged of reading it. -/
def load (files : Files) (explicit : Option Text) : Except ConfigError Config × Log :=
  match path? files explicit with
  | none => (.ok default, [])
  | some path => (readFrom files path, [.configLoading path])

end Config
end Snippetry
