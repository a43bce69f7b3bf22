import Snippetry.Run.Timeline

/-! # Output in chunks

A reader cuts a stream into chunks; the chunks of all readers wait in one queue. -/
namespace Snippetry

structure Chunk where
  stream : Stream
  bytes : Bytes
deriving DecidableEq, Repr

def lineFeed : UInt8 := 10

/-- The full lines in a piece that follows what was held back, and what is to be held back now. -/
def readLines (held : Bytes) : Bytes → List Bytes × Bytes
  | [] => ([], held)
  | b :: piece =>
    if b = lineFeed then
      let (lines, rest) := readLines [] piece
      ((held ++ [b]) :: lines, rest)
    else readLines (held ++ [b]) piece

/-- At the end of a stream what was held back is a chunk, if it is anything. -/
def lastChunk (held : Bytes) : List Bytes := if held = [] then [] else [held]

/-- How the output of a process is read. -/
inductive Reading
  /-- Standard output in lines, and standard error in pieces as they come. -/
  | apart
  /-- Both streams in one, in pieces as they come. -/
  | together
deriving DecidableEq, Repr

/-- A terminal shows each line feed as a new line from the left. -/
def terminalBytes (bytes : Bytes) : Bytes := bytes.flatMap fun b => if b = lineFeed then [13, b] else [b]

/-- The chunks of a write, and what is held back after it. -/
def Reading.chunks (r : Reading) (held : Bytes) (w : Write) : List Chunk × Bytes :=
  match r, w.stream with
  | together, _ => ([⟨.out, terminalBytes w.bytes⟩], held)
  | apart, .err => ([⟨.err, w.bytes⟩], held)
  | apart, .out =>
    let (lines, held) := readLines held w.bytes
    (lines.map (⟨.out, ·⟩), held)

/-- The chunks of all writes with the times they arrive at, up to when the streams are closed. -/
def Reading.arrivals (r : Reading) (closing : Nat) (held : Bytes) : List Write → List (Nat × Chunk)
  | [] => (lastChunk held).map fun bytes => (closing, ⟨.out, bytes⟩)
  | w :: writes =>
    let (chunks, held) := r.chunks held w
    chunks.map (w.time, ·) ++ r.arrivals closing held writes

end Snippetry
