import Mathlib.Logic.Function.Basic
import Snippetry.Proofs.Run.Calls

/-! # The streams of a process on their way to the supervisor

Each stream has a reader, which cuts what it reads into chunks and sends them into a queue that is
common to both. Nobody knows when a reader moves, nor in what pieces its stream comes. Whatever was
received, waits in the queue or is still with a reader makes up the stream. -/
namespace Snippetry.World

def bytesOn (stream : Stream) (chunks : List Chunk) : Bytes :=
  chunks.flatMap fun c => if c.stream = stream then c.bytes else []

section Bytes

variable {stream other : Stream} {chunks rest : List Chunk}

@[simp] theorem bytesOn_nil : bytesOn stream [] = [] := rfl

@[simp] theorem bytesOn_append :
    bytesOn stream (chunks ++ rest) = bytesOn stream chunks ++ bytesOn stream rest :=
  List.flatMap_append

theorem bytesOn_cons (c : Chunk) :
    bytesOn stream (c :: rest) = (if c.stream = stream then c.bytes else []) ++ bytesOn stream rest :=
  rfl

theorem bytesOn_map (pieces : List Bytes) :
    bytesOn stream (pieces.map (⟨stream, ·⟩)) = pieces.flatten := by
  simp [bytesOn, List.flatMap_map, List.flatMap_id']

theorem bytesOn_of_ne (h : ∀ c ∈ chunks, c.stream = stream) (hne : stream ≠ other) :
    bytesOn other chunks = [] := by
  rw [bytesOn, List.flatMap_eq_nil_iff]
  intro c hmem
  rw [h c hmem, if_neg hne]

theorem bytesOn_isPrefix (h : chunks <+: rest) : bytesOn stream chunks <+: bytesOn stream rest := by
  obtain ⟨more, rfl⟩ := h
  simp

end Bytes

theorem flatten_readLines (held piece : Bytes) :
    (readLines held piece).1.flatten ++ (readLines held piece).2 = held ++ piece := by
  induction piece generalizing held with
  | nil => simp [readLines]
  | cons b piece ih =>
    by_cases h : b = lineFeed
    · simpa [readLines, h] using ih []
    · simpa [readLines, h] using ih (held ++ [b])

theorem flatten_lastChunk (held : Bytes) : (lastChunk held).flatten = held := by
  by_cases h : held = [] <;> simp [lastChunk, h]

def cut (stream : Stream) (held piece : Bytes) : List Chunk × Bytes :=
  Reading.apart.chunks held ⟨0, stream, piece, 0, false⟩

theorem stream_of_mem_cut {stream : Stream} {held piece : Bytes} :
    ∀ c ∈ (cut stream held piece).1, c.stream = stream := by
  cases stream <;> simp [cut, Reading.chunks]

inductive Reader
  /-- It will read these pieces; it holds bytes back; and it has chunks to send first. -/
  | reading (unread : List Bytes) (held : Bytes) (ready : List Chunk)
  | gone

namespace Reader

inductive Move (stream : Stream) : Reader → List Chunk → Reader → Prop
  | read (piece : Bytes) (unread : List Bytes) (held : Bytes) :
      Move stream (.reading (piece :: unread) held []) []
        (.reading unread (cut stream held piece).2 (cut stream held piece).1)
  | send (unread : List Bytes) (held : Bytes) (c : Chunk) (ready : List Chunk) :
      Move stream (.reading unread held (c :: ready)) [c] (.reading unread held ready)
  | close (held : Bytes) :
      Move stream (.reading [] held []) [] (.reading [] [] ((lastChunk held).map (⟨stream, ·⟩)))
  | leave : Move stream (.reading [] [] []) [] .gone

/-- Standard error is never held back, and a reader has chunks of its own stream only. -/
def IsSound (stream : Stream) : Reader → Prop
  | .reading _ held ready => (stream = .err → held = []) ∧ ∀ c ∈ ready, c.stream = stream
  | .gone => True

def left (stream : Stream) : Reader → Bytes
  | .reading unread held ready => bytesOn stream ready ++ held ++ unread.flatten
  | .gone => []

variable {stream : Stream} {r r' : Reader} {sent : List Chunk}

theorem bytesOn_cut {held piece : Bytes} (h : stream = .err → held = []) :
    bytesOn stream (cut stream held piece).1 ++ (cut stream held piece).2 = held ++ piece := by
  cases stream with
  | out => simpa [cut, Reading.chunks, bytesOn_map] using flatten_readLines held piece
  | err => simp [cut, Reading.chunks, bytesOn_cons, h rfl]

theorem Move.isSound (h : Move stream r sent r') (hr : r.IsSound stream) : r'.IsSound stream := by
  cases h with
  | read piece unread held =>
    refine ⟨fun herr => ?_, stream_of_mem_cut⟩
    subst herr
    simpa [cut, Reading.chunks] using hr.1 rfl
  | send unread held c ready => exact ⟨hr.1, fun d hmem => hr.2 d (List.mem_cons_of_mem _ hmem)⟩
  | close => exact ⟨fun _ => rfl, by simp⟩
  | leave => trivial

theorem Move.stream_of_mem (h : Move stream r sent r') (hr : r.IsSound stream) :
    ∀ c ∈ sent, c.stream = stream := by
  cases h with
  | send unread held c ready => simpa using hr.2 c (List.mem_cons_self ..)
  | read | close | leave => simp

/-- What a move sends and what is left after it was left before it. -/
theorem Move.left_eq (h : Move stream r sent r') (hr : r.IsSound stream) :
    bytesOn stream sent ++ r'.left stream = r.left stream := by
  cases h with
  | read piece unread held =>
    simp only [left, bytesOn_cut hr.1, bytesOn_nil, List.nil_append, List.flatten_cons,
      List.append_assoc]
  | send => simp [left, bytesOn_cons]
  | close held => simp [left, bytesOn_map, flatten_lastChunk]
  | leave => rfl

end Reader

/-- The readers, and the chunks that were sent and not received. -/
structure Pipe where
  readers : Stream → Reader
  queue : List Chunk

def Call.IsAside : Call → Prop
  | .received _ | .wrote _ _ => False
  | _ => True

namespace Pipe

def start (pieces : Stream → List Bytes) : Pipe := ⟨fun stream => .reading (pieces stream) [] [], []⟩

inductive Move (p : Pipe) : Pipe → Prop
  | reader (stream : Stream) {sent : List Chunk} {r : Reader}
      (h : Reader.Move stream (p.readers stream) sent r) :
      Move p ⟨Function.update p.readers stream r, p.queue ++ sent⟩

/-- A call with an answer that is possible. What was sent first is received first, and the queue is
closed when all readers are gone and all that they sent was received; it can also seem that there is
nothing at any time. Writes succeed. -/
inductive Serves : Pipe → Call → Pipe → Prop
  | chunk (readers : Stream → Reader) (c : Chunk) (queue : List Chunk) :
      Serves ⟨readers, c :: queue⟩ (.received (.chunk c)) ⟨readers, queue⟩
  | nothing (p : Pipe) : Serves p (.received .nothing) p
  | closed (p : Pipe) (hqueue : p.queue = []) (hreaders : ∀ stream, p.readers stream = .gone) :
      Serves p (.received .closed) p
  | wrote (p : Pipe) (c : Chunk) : Serves p (.wrote c (.ok ())) p
  | aside (p : Pipe) {call : Call} (h : call.IsAside) : Serves p call p

/-- Calls of the supervisor with moves of the readers between them, in any order. -/
inductive Follows : Pipe → List Call → Pipe → Prop
  | stay (p : Pipe) : Follows p [] p
  | move {p q r : Pipe} {calls : List Call} (hmove : p.Move q) (h : Follows q calls r) :
      Follows p calls r
  | call {p q r : Pipe} {call : Call} {calls : List Call} (hserves : p.Serves call q)
      (h : Follows q calls r) : Follows p (call :: calls) r

end Pipe

def received (calls : List Call) : List Chunk := calls.filterMap fun
  | .received (.chunk c) => some c
  | _ => none

def written (calls : List Call) : List Chunk := calls.filterMap fun
  | .wrote c (.ok ()) => some c
  | _ => none

@[simp] theorem received_append (calls rest : List Call) :
    received (calls ++ rest) = received calls ++ received rest := List.filterMap_append

@[simp] theorem written_append (calls rest : List Call) :
    written (calls ++ rest) = written calls ++ written rest := List.filterMap_append

namespace Pipe.Serves

variable {p q : Pipe} {call : Call}

theorem readers_eq (h : p.Serves call q) : q.readers = p.readers := by
  cases h <;> rfl

theorem queue_eq (h : p.Serves call q) : received [call] ++ q.queue = p.queue := by
  cases h with
  | aside _ h => cases call <;> first | rfl | exact False.elim h
  | _ => rfl

theorem closed_eq (h : p.Serves (.received .closed) q) :
    q.queue = [] ∧ ∀ stream, q.readers stream = .gone := by
  cases h with
  | closed _ hqueue hreaders => exact ⟨hqueue, hreaders⟩
  | aside _ h => exact False.elim h

theorem result_eq {c : Chunk} {result : Except Text Unit} (h : p.Serves (.wrote c result) q) :
    result = .ok () := by
  cases h with
  | wrote => rfl
  | aside _ h => exact False.elim h

end Pipe.Serves

structure Flow (pieces : Stream → List Bytes) (calls : List Call) (p : Pipe) : Prop where
  sound : ∀ stream, (p.readers stream).IsSound stream
  whole : ∀ stream, bytesOn stream (received calls) ++ bytesOn stream p.queue ++
    (p.readers stream).left stream = (pieces stream).flatten
  closed : .received .closed ∈ calls → p.queue = [] ∧ ∀ stream, p.readers stream = .gone
  succeeded : ∀ c result, .wrote c result ∈ calls → result = .ok ()

namespace Flow

variable {pieces : Stream → List Bytes} {calls rest : List Call} {p q : Pipe} {call : Call}

theorem start : Flow pieces [] (.start pieces) where
  sound _ := ⟨fun _ => rfl, by simp⟩
  whole _ := rfl
  closed := by simp
  succeeded := by simp

theorem move (h : Flow pieces calls p) (hmove : p.Move q) : Flow pieces calls q := by
  obtain @⟨stream, sent, r, hmove⟩ := hmove
  have hleft := hmove.left_eq (h.sound stream)
  refine ⟨fun other => ?_, fun other => ?_, fun hclosed => ?_, h.succeeded⟩
  · by_cases heq : other = stream
    · subst heq
      simpa using hmove.isSound (h.sound other)
    · simpa [heq] using h.sound other
  · by_cases heq : other = stream
    · subst heq
      simpa [← hleft] using h.whole other
    · have hsent := bytesOn_of_ne (hmove.stream_of_mem (h.sound stream)) (Ne.symm heq)
      simpa [heq, hsent] using h.whole other
  · rw [(h.closed hclosed).2 stream] at hmove
    cases hmove

theorem serves (h : Flow pieces calls p) (hserves : p.Serves call q) :
    Flow pieces (calls ++ [call]) q where
  sound stream := hserves.readers_eq ▸ h.sound stream
  whole stream := by
    have hwhole := h.whole stream
    rw [← hserves.queue_eq, bytesOn_append] at hwhole
    rw [received_append, bytesOn_append, hserves.readers_eq, List.append_assoc (bytesOn _ _)]
    exact hwhole
  closed hmem := by
    rcases List.mem_append.mp hmem with hmem | hmem
    · obtain ⟨hqueue, hreaders⟩ := h.closed hmem
      rw [← hserves.queue_eq] at hqueue
      exact ⟨(List.append_eq_nil_iff.mp hqueue).2, hserves.readers_eq ▸ hreaders⟩
    · obtain rfl := List.mem_singleton.mp hmem
      exact hserves.closed_eq
  succeeded c result hmem := by
    rcases List.mem_append.mp hmem with hmem | hmem
    · exact h.succeeded c result hmem
    · obtain rfl := List.mem_singleton.mp hmem
      exact hserves.result_eq

theorem follows (h : Flow pieces calls p) (hfollows : p.Follows rest q) :
    Flow pieces (calls ++ rest) q := by
  induction hfollows generalizing calls with
  | stay => simpa using h
  | move hmove _ ih => exact ih (h.move hmove)
  | call hserves _ ih => simpa using ih (h.serves hserves)

/-- What was received is the beginning of the stream. -/
theorem received_isPrefix (h : Flow pieces calls p) (stream : Stream) :
    bytesOn stream (received calls) <+: (pieces stream).flatten :=
  ⟨_, by rw [← List.append_assoc, h.whole]⟩

/-- When the queue is closed, the streams were received to the end. -/
theorem received_eq (h : Flow pieces calls p) (hclosed : .received .closed ∈ calls) (stream : Stream) :
    bytesOn stream (received calls) = (pieces stream).flatten := by
  obtain ⟨hqueue, hreaders⟩ := h.closed hclosed
  simpa [hqueue, hreaders stream, Reader.left] using h.whole stream

end Flow

end Snippetry.World
