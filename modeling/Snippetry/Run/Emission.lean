import Snippetry.Log
import Snippetry.Run.Chunk

/-! # Emissions: what comes out on the way, in order -/
namespace Snippetry

inductive Emission
  | wrote (c : Chunk)
  | logged (e : LogEntry)
deriving DecidableEq, Repr

namespace Emission

def shown (t : Text) : Emission := .wrote ⟨.out, Utf8.encode t⟩

def told (t : Text) : Emission := .wrote ⟨.err, Utf8.encode t⟩

def toldLine (t : Text) : Emission := told (t ++ ['\n'])

def isLogged : Emission → Bool
  | logged _ => true
  | wrote _ => false

end Emission

def streamBytes (stream : Stream) (emissions : List Emission) : Bytes :=
  emissions.flatMap fun emission => match emission with
    | .wrote c => if c.stream = stream then c.bytes else []
    | .logged _ => []

def Log.emissions (log : Log) : List Emission := log.map .logged

end Snippetry
