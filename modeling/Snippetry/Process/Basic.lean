import Snippetry.Files
import Snippetry.Run.Timeline
import Snippetry.Text.Basic

/-! # Processes: descriptors, files and time

Texts are as bytes here: each character stands for the byte with its number. -/
namespace Snippetry

def bytesOf (t : Text) : Bytes := t.map fun c => c.toNat.toUInt8

def textOf (bytes : Bytes) : Text := bytes.map fun b => Char.ofNat b.toNat

def decodePath (t : Text) : Text := Utf8.decodeLossy (bytesOf t)

def encodePath (t : Text) : Text := textOf (Utf8.encode t)

/-- What a descriptor stands for. Copies of a descriptor share it. -/
inductive Opening
  /-- A stream of the process, or the terminal. -/
  | stream (s : Stream)
  /-- Texts with the times they were written at, up to a time after which no more come. The latest of
  the recent ones comes first. -/
  | pipe (ready recent : List (Nat × Text)) (closing : Nat)
  /-- A place in a file, which is named from the root. -/
  | file (names : List Text) (position : Nat) (appends writable : Bool)
  | null
deriving DecidableEq, Repr

structure Sent where
  target : Nat
  time : Nat
  signal : Nat
deriving DecidableEq, Repr

structure Process where
  number : Nat
  /-- The latest number that was given to a process. -/
  latest : Nat
  environment : List (Text × Text)
  files : Files
  /-- Each descriptor with the number of what it stands for. -/
  descriptors : List (Nat × Nat)
  /-- The latest one comes first. -/
  openings : List (Nat × Opening)
  /-- The permissions that new files do not get. -/
  mask : Nat
  onTerminal : Bool
  /-- In milliseconds since the start. -/
  clock : Nat
  /-- The latest write comes first. -/
  writes : List Write
  holds : List Hold
  signals : List Sent
  /-- Signals that have no effect on it and on its children. -/
  ignored : List Nat
  /-- Whether it goes on when the first process is killed. -/
  inBackground : Bool
  /-- Whether it keeps a stream open while time passes. -/
  keepsStreams : Bool

/-- What a process does. The number of a signal is an end before its time. -/
abbrev Act := ExceptT Nat (StateM Process)

def setKey {κ α : Type} [DecidableEq κ] (key : κ) (value : α) : List (κ × α) → List (κ × α)
  | [] => [(key, value)]
  | (k, v) :: entries =>
    if k = key then (key, value) :: entries else (k, v) :: setKey key value entries

def dropKey {κ α : Type} [DecidableEq κ] (key : κ) (entries : List (κ × α)) : List (κ × α) :=
  entries.filter fun entry => entry.1 ≠ key

/-- Later than anything that is waited for. -/
def forever : Nat := 1000000000000000

namespace Process

/-! ## Time -/

def opensStream (p : Process) : Bool :=
  p.descriptors.any fun (_, number) => match p.openings.lookup number with
    | some (.stream _) => true
    | _ => false

/-- Let time pass up to a moment. -/
def waitUntil (moment : Nat) (p : Process) : Process :=
  if moment ≤ p.clock then p
  else
    let own := if p.keepsStreams then [⟨p.clock, moment, p.number, p.inBackground⟩] else []
    { p with clock := moment, holds := own ++ p.holds }

/-! ## Descriptors -/

def opening? (p : Process) (descriptor : Nat) : Option Opening :=
  (p.descriptors.lookup descriptor).bind fun number => p.openings.lookup number

/-- Something new to read or write, with its number. -/
def addOpening (p : Process) (o : Opening) : Nat × Process :=
  let number := match p.openings with
    | (latest, _) :: _ => latest + 1
    | [] => 0
  (number, { p with openings := (number, o) :: p.openings })

def setOpening (p : Process) (number : Nat) (o : Opening) : Process :=
  { p with openings := setKey number o p.openings }

def connect (p : Process) (descriptor number : Nat) : Process :=
  { p with descriptors := setKey descriptor number p.descriptors }

def disconnect (p : Process) (descriptor : Nat) : Process :=
  { p with descriptors := dropKey descriptor p.descriptors }

/-- Open something new as a descriptor. -/
def attach (p : Process) (descriptor : Nat) (o : Opening) : Process :=
  let (number, p) := p.addOpening o
  p.connect descriptor number

def isTerminal (p : Process) (descriptor : Nat) : Bool :=
  p.onTerminal && match p.opening? descriptor with
    | some (.stream _) => true
    | _ => false

/-! ## Writing -/

def content (p : Process) (names : List Text) : Text :=
  match p.files.readBytes (Files.pathOf names) with
  | .ok bytes => textOf bytes
  | .error _ => []

/-- A text laid over another from a position on. -/
def overlay (position : Nat) (t old : Text) : Text :=
  old.take position ++ List.replicate (position - old.length) '\x00' ++ t
    ++ old.drop (position + t.length)

/-- Write to what has a number; `none` if nothing can be written there. -/
def writeTo? (p : Process) (number : Nat) (t : Text) : Option Process :=
  match p.openings.lookup number with
  | some (.stream s) =>
    some { p with writes := ⟨p.clock, s, bytesOf t, p.number, p.inBackground⟩ :: p.writes }
  | some (.pipe ready recent closing) =>
    some (p.setOpening number (.pipe ready ((p.clock, t) :: recent) (max closing p.clock)))
  | some (.file names position appends true) =>
    let old := p.content names
    let start := if appends then old.length else position
    let files := p.files.put names (.file (bytesOf (overlay start t old)))
    some ({ p with files }.setOpening number (.file names (start + t.length) appends true))
  | some .null => some p
  | _ => none

def write (descriptor : Nat) (t : Text) : Act Bool := do
  let p ← get
  match p.descriptors.lookup descriptor with
  | none => pure (t = [])
  | some number =>
    if t = [] then pure true
    else match p.writeTo? number t with
      | some p => set p; pure true
      | none => pure false

/-! ## Reading -/

/-- Wait for what never comes. -/
def stall {α : Type} : Act α := do
  modify (waitUntil forever)
  throw 15

def remainder (p : Process) (number : Nat) : Text :=
  match p.openings.lookup number with
  | some (.pipe ready recent _) => (ready ++ recent.reverse).flatMap Prod.snd
  | some (.file names position _ _) => (p.content names).drop position
  | _ => []

/-- Take so many characters from the chunks; the time of the last one comes along. -/
def takeChunks : Nat → Nat → List (Nat × Text) → Nat × List (Nat × Text)
  | _, latest, [] => (latest, [])
  | count, latest, (time, t) :: chunks =>
    if count = 0 then (latest, (time, t) :: chunks)
    else if t.length ≤ count then takeChunks (count - t.length) time chunks
    else (time, (time, t.drop count) :: chunks)

/-- Pass over characters that were read, and with `toEnd` over the end as well. -/
def advance (p : Process) (number count : Nat) (toEnd : Bool) : Process :=
  match p.openings.lookup number with
  | some (.pipe ready recent closing) =>
    let (latest, ready) := takeChunks count 0 (ready ++ recent.reverse)
    (p.setOpening number (.pipe ready [] closing)).waitUntil (if toEnd then closing else latest)
  | some (.file names position appends writable) =>
    p.setOpening number (.file names (position + count) appends writable)
  | _ => p

/-- Read from a descriptor as many characters as `enough` says of all there is, or up to the end. A
terminal is waited for. -/
def readSome (descriptor : Nat) (enough : Text → Option Nat) : Act (Option Text) := do
  let p ← get
  match p.descriptors.lookup descriptor with
  | none => pure none
  | some number =>
    if p.isTerminal descriptor then stall
    else
      let t := p.remainder number
      let count := (enough t).getD t.length
      set (p.advance number count (enough t).isNone)
      pure (some (t.take count))

def readAll (descriptor : Nat) : Act (Option Text) := readSome descriptor fun _ => none

def readLine (descriptor : Nat) : Act (Option Text) :=
  readSome descriptor fun t =>
    let line := t.takeWhile (· ≠ '\n')
    if line.length < t.length then some (line.length + 1) else none

/-- How much of the chunks is there as soon as there is anything. -/
def availableLength (clock : Nat) : List (Nat × Text) → Nat
  | [] => 0
  | (time, t) :: chunks =>
    t.length + ((chunks.takeWhile fun c => c.1 ≤ max clock time).map fun c => c.2.length).foldl
      (· + ·) 0

/-- Read what is there at once, and no more than so many characters; nothing at the end. -/
def readBlock (descriptor most : Nat) : Act (Option Text) := do
  let p ← get
  let available := match p.opening? descriptor with
    | some (.pipe ready recent _) => availableLength p.clock (ready ++ recent.reverse)
    | _ => most
  readSome descriptor fun t => if t = [] then none else some (min (min most available) t.length)

/-! ## Opening files -/

inductive Access
  | read
  /-- What was in the file is lost. -/
  | write
  | append
  | readWrite
deriving DecidableEq, Repr

/-- The descriptor that a path stands for. -/
def device? : List Text → Option Nat
  | [['d', 'e', 'v'], name] =>
    match String.ofList name with
    | "stdin" => some 0
    | "stdout" => some 1
    | "stderr" => some 2
    | _ => none
  | _ => none

def create? (p : Process) (path : Text) : Except FileError Process := do
  let last := (path.reverse.takeWhile (· ≠ '/')).reverse
  let parent := path.take (path.length - last.length)
  match ← p.files.node? (if parent = [] then ['.'] else parent) with
  | .directory _ =>
    if last = [] then .error .isDirectory
    else .ok { p with files := p.files.put (p.files.names path) (.file []) }
  | _ => .error .notADirectory

/-- Open a file; what was opened comes with its number. -/
def open? (p : Process) (access : Access) (path : Text) : Except FileError (Nat × Process) :=
  let names := p.files.names path
  let place := Opening.file names 0 (access = .append) (access ≠ .read)
  match p.files.node? path with
  | .ok (.directory _) => if access = .read then .ok (p.addOpening place) else .error .isDirectory
  | .ok .device =>
    match device? names with
    | some descriptor =>
      match p.descriptors.lookup descriptor with
      | some number => .ok (number, p)
      | none => .error .notFound
    | none => .ok (p.addOpening .null)
  | .ok _ =>
    let files := if access = .write then p.files.put names (.file []) else p.files
    .ok ({ p with files }.addOpening place)
  | .error .notFound =>
    if access = .read then .error .notFound else do .ok ((← p.create? path).addOpening place)
  | .error e => .error e

/-! ## Children -/

def child (p : Process) : Process :=
  { p with number := p.latest + 1, latest := p.latest + 1, inBackground := true }

/-- At the end of a process what others read from it is closed. -/
def release (p : Process) : Process :=
  p.descriptors.foldl (fun p (_, number) => match p.openings.lookup number with
    | some (.pipe ready recent closing) =>
      p.setOpening number (.pipe ready recent (max closing p.clock))
    | _ => p) p

/-- Carry out a program as the process: its path, its name and its arguments. -/
abbrev Launch := Text → Text → List Text → Act Nat

/-- What a child leaves behind, at whatever time. -/
def adopt (parent child : Process) : Process :=
  { parent with
    latest := child.latest, openings := child.openings, writes := child.writes, holds := child.holds
    signals := child.signals, files := { child.files with here := parent.files.here } }

/-- What there is when a child has ended that was waited for. -/
def after (parent child : Process) : Process := (parent.adopt child.release).waitUntil child.clock

/-- Carry out in a process of its own that is waited for. The result is the signal that ended it, or
what came of it. -/
def spawn {α : Type} (act : Act α) : Act (Except Nat α) := do
  let parent ← get
  let (result, child) := act parent.child
  set (parent.after child)
  pure result

/-! ## Signals -/

/-- End a process at a time: what it did later does not happen. -/
def cutShort (p : Process) (target time : Nat) : Process :=
  { p with
    writes := p.writes.filter fun w => w.process ≠ target || w.time ≤ time
    holds := p.holds.map fun h =>
      if h.process = target then { h with stop := min h.stop (max h.start time) } else h }

def send (p : Process) (target signal : Nat) : Process :=
  { p with signals := p.signals ++ [⟨target, p.clock, signal⟩] }

/-- The signals that have arrived by now, and the process without them. -/
def received (p : Process) : List Sent × Process :=
  if p.signals.isEmpty then ([], p)
  else
    let (arrived, others) := p.signals.partition fun s => s.target = p.number && s.time ≤ p.clock
    (arrived, { p with signals := others })

end Process
end Snippetry
