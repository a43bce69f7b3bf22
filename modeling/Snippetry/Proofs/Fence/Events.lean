import Snippetry.Proofs.Reading

/-! # Matched fences, event by event

A reader of CommonMark reports where a block of code begins, the pieces of its text and where it ends,
among much else. What becomes of a document follows from any sequence of such events; one that reports
whole blocks in turn gives what the blocks do. -/
namespace Snippetry

namespace Matched

inductive Event
  /-- A fenced block begins; the span is that of the whole block. -/
  | opening (info : Text) (span : Span)
  | text (piece : Markdown.Piece)
  /-- A block of code ends. -/
  | closing
  | other

/-- A block that has begun, and where it will end. A block that is ignored has no assembly. -/
structure OpenBlock where
  assembly : Option Assembly
  stop : Nat

structure Reader where
  collector : Collector
  block : Option OpenBlock

namespace Reader

def start (fileId : Nat) : Reader := ⟨.empty fileId, none⟩

def openBlock (c : Collector) (info : Text) (span : Span) : Reader :=
  match Text.word? (Text.trimStart info) with
  | none => ⟨c, some ⟨none, span.stop⟩⟩
  | some tag => ⟨(c.openBlock tag span).1, some ⟨(c.openBlock tag span).2.map .start, span.stop⟩⟩

def closeBlock (c : Collector) : Option OpenBlock → Reader
  | some ⟨some a, stop⟩ => ⟨c.close a.finish stop, none⟩
  | _ => ⟨c, none⟩

/-- A block that begins inside another one takes its place. -/
def step (r : Reader) : Event → Reader
  | .opening info span => openBlock r.collector info span
  | .text piece =>
    { r with block := r.block.map fun b => { b with assembly := b.assembly.map (·.push piece) } }
  | .closing => closeBlock r.collector r.block
  | .other => r

end Reader

def readEvents (fileId : Nat) (events : List Event) : Collector :=
  (events.foldl Reader.step (.start fileId)).collector

def eventsOf (b : Markdown.FencedBlock) : List Event :=
  .opening b.info b.span :: (b.pieces.map .text ++ [.closing])

namespace Reader

theorem foldl_step_text (c : Collector) (a : Option Assembly) (stop : Nat)
    (pieces : List Markdown.Piece) : (pieces.map Event.text).foldl step ⟨c, some ⟨a, stop⟩⟩ =
      ⟨c, some ⟨a.map (pieces.foldl Assembly.push), stop⟩⟩ := by
  induction pieces generalizing a with
  | nil => cases a <;> rfl
  | cons piece pieces ih =>
    simp only [List.map_cons, List.foldl_cons, step, Option.map_some, ih, Option.map_map]
    rfl

theorem foldl_step_eventsOf (c : Collector) (b : Markdown.FencedBlock) :
    (eventsOf b).foldl step ⟨c, none⟩ = ⟨collect c b, none⟩ := by
  simp only [eventsOf, List.foldl_cons, List.foldl_append, List.foldl_nil, step, openBlock]
  unfold collect
  cases Text.word? (Text.trimStart b.info) with
  | none =>
    rw [foldl_step_text]
    rfl
  | some tag =>
    rw [foldl_step_text]
    rcases hopen : c.openBlock tag b.span with ⟨c', draft⟩
    cases draft <;> simp [closeBlock, hopen, Assembly.start]

end Reader

/-- A scan goes by the events of the blocks that are found. -/
theorem scan_eq_readEvents (fileId : Nat) (blocks : List Markdown.FencedBlock) :
    scan fileId blocks = readEvents fileId (blocks.flatMap eventsOf) := by
  have hblocks (blocks : List Markdown.FencedBlock) (c : Collector) :
      (blocks.flatMap eventsOf).foldl Reader.step ⟨c, none⟩ = ⟨blocks.foldl collect c, none⟩ := by
    induction blocks generalizing c with
    | nil => rfl
    | cons b blocks ih =>
      rw [List.flatMap_cons, List.foldl_append, Reader.foldl_step_eventsOf, ih, List.foldl_cons]
  rw [readEvents, Reader.start, hblocks]
  rfl

end Matched

namespace Collector.Invariant

variable {p : Collector → Prop}

theorem step_matched (h : Invariant p) (r : Matched.Reader) (event : Matched.Event)
    (hr : p r.collector) : p (r.step event).collector := by
  cases event with
  | opening info span =>
    simp only [Matched.Reader.step, Matched.Reader.openBlock]
    split
    · exact hr
    · exact h.openBlock hr _ _
  | text piece => exact hr
  | closing =>
    simp only [Matched.Reader.step, Matched.Reader.closeBlock]
    split
    · exact h.close hr _ _
    · exact hr
  | other => exact hr

theorem readEvents (h : Invariant p) (fileId : Nat) (events : List Matched.Event) :
    p (Matched.readEvents fileId events) :=
  List.foldlRecOn (motive := fun r : Matched.Reader => p r.collector) events _ (h.empty fileId)
    fun r hr event _ => h.step_matched r event hr

end Collector.Invariant
end Snippetry
