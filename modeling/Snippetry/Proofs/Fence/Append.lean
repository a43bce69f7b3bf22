import Snippetry.Proofs.Fence.Relocation
import Snippetry.Proofs.Reading

/-! # Sources with plain fences one after the other

A source that leaves no block open says the same whatever follows it, and what follows says the same as
alone, only further on: its spans begin after the first source, and its numbers after the numbers
there. -/
namespace Snippetry

def SnippetId.advance (n : Nat) (id : SnippetId) : SnippetId :=
  ⟨min (id.value + n) 4294967295, by have := id.positive; omega, by omega⟩

namespace SnippetId

theorem value_next (id : SnippetId) : id.next.value = min (id.value + 1) 4294967295 := by
  have := id.bounded
  unfold next
  split
  · dsimp only
    omega
  · omega

theorem next_advance (n : Nat) (id : SnippetId) : (id.advance n).next = id.next.advance n := by
  ext
  simp only [value_next, advance]
  omega

theorem advance_first (n : Nat) : first.advance n = nth n := by
  ext
  simp only [value_nth, advance, first]
  omega

end SnippetId

/-! ## The same, further on -/

def SourceLine.shift (n : Nat) (l : SourceLine) : SourceLine := ⟨l.text, l.span.shift n⟩

def Snippet.shift (bytes numbers : Nat) (s : Snippet) : Snippet :=
  { s with
    id := s.id.map (SnippetId.advance numbers)
    rawLines := s.rawLines.map (SourceLine.shift bytes)
    span := s.span.shift bytes }

def Notice.shift (n : Nat) (notice : Notice) : Notice := { notice with span := notice.span.shift n }

namespace Draft

def shift (n : Nat) (d : Draft) : Draft :=
  { d with lines := d.lines.map (SourceLine.shift n), start := d.start + n }

theorem shift_push (n : Nat) (d : Draft) (l : SourceLine) :
    (d.push l).shift n = (d.shift n).push (l.shift n) :=
  relocate_push (· + n) d l

end Draft

namespace Collector

/-- The collector `whole` has what `first` has, and after it what `c` has, further on. -/
structure Continues (first : Collector) (bytes numbers : Nat) (c whole : Collector) : Prop where
  fileId : whole.fileId = c.fileId
  nextId : whole.nextId = c.nextId.advance numbers
  snippets : whole.snippets = first.snippets ++ c.snippets.map (Snippet.shift bytes numbers)
  notices : whole.notices = first.notices ++ c.notices.map (Notice.shift bytes)

namespace Continues

variable {first c whole : Collector} {bytes numbers : Nat}

theorem openBlock (h : first.Continues bytes numbers c whole) (tag : Text) (span : Span) :
    first.Continues bytes numbers (c.openBlock tag span).1
        (whole.openBlock tag (span.shift bytes)).1 ∧
      (whole.openBlock tag (span.shift bytes)).2 =
        (c.openBlock tag span).2.map (Draft.shift bytes) := by
  unfold Collector.openBlock
  cases Language.ofTag? tag with
  | none =>
    exact ⟨⟨h.fileId, h.nextId, h.snippets, by simp [h.notices, h.fileId, Notice.shift]⟩, rfl⟩
  | some language =>
    exact ⟨⟨h.fileId, h.nextId, h.snippets, h.notices⟩, rfl⟩

theorem close (h : first.Continues bytes numbers c whole) (d : Draft) (stop : Nat) :
    first.Continues bytes numbers (c.close d stop) (whole.close (d.shift bytes) (stop + bytes)) := by
  unfold Collector.close
  cases hlibrary : d.isLibrary with
  | true =>
    refine ⟨?_, ?_, ?_, ?_⟩ <;>
      simp [h.fileId, h.nextId, h.snippets, h.notices, hlibrary, Draft.shift, Snippet.shift,
        Span.shift]
  | false =>
    refine ⟨?_, ?_, ?_, ?_⟩ <;>
      simp [h.fileId, h.nextId, h.snippets, h.notices, hlibrary, Draft.shift, Snippet.shift,
        Span.shift, SnippetId.next_advance]

theorem unterminated (h : first.Continues bytes numbers c whole) (d : Draft) (stop : Nat) :
    first.Continues bytes numbers (c.unterminated d stop)
      (whole.unterminated (d.shift bytes) (stop + bytes)) :=
  ⟨h.fileId, h.nextId, h.snippets, by
    simp [Collector.unterminated, h.notices, h.fileId, Draft.shift, Notice.shift, Span.shift]⟩

end Continues

end Collector

namespace Plain

def scanned (fileId : Nat) (source : Text) : Scan :=
  (Text.lines source).foldl Scan.step (.start fileId)

def State.shift (n : Nat) : State → State
  | outside => outside
  | inside draft => inside (draft.map (Draft.shift n))

structure Scan.Continues (first : Collector) (bytes numbers : Nat) (s whole : Scan) : Prop where
  state : whole.state = s.state.shift bytes
  collector : first.Continues bytes numbers s.collector whole.collector

namespace Scan.Continues

variable {first : Collector} {bytes numbers : Nat} {s whole : Scan}

theorem step (h : Continues first bytes numbers s whole) (line : Line) :
    Continues first bytes numbers (s.step line) (whole.step (line.shift bytes)) := by
  obtain ⟨state, c⟩ := s
  obtain ⟨state', c'⟩ := whole
  obtain ⟨rfl, hc⟩ := h
  have htext : (line.shift bytes).text = line.text := rfl
  unfold Scan.step
  rw [htext, line.span_shift bytes]
  cases state with
  | outside =>
    rcases fence? line.text with _ | _ | tag
    · exact ⟨rfl, hc⟩
    · exact ⟨rfl, hc⟩
    · obtain ⟨hopen, hdraft⟩ := hc.openBlock tag line.span
      exact ⟨congrArg State.inside hdraft, hopen⟩
  | inside draft =>
    rcases draft with _ | draft <;> rcases fence? line.text with _ | tag
    · exact ⟨rfl, hc⟩
    · exact ⟨rfl, hc⟩
    · have hpush := Draft.shift_push bytes draft ⟨line.text, line.span⟩
      exact ⟨congrArg (State.inside ∘ some) hpush.symm, hc⟩
    · exact ⟨rfl, hc.close draft line.span.stop⟩

theorem foldl_step (h : Continues first bytes numbers s whole) (lines : List Line) :
    Continues first bytes numbers (lines.foldl Scan.step s)
      ((lines.map (Line.shift bytes)).foldl Scan.step whole) := by
  induction lines generalizing s whole with
  | nil => exact h
  | cons line lines ih => exact ih (h.step line)

theorem finish (h : Continues first bytes numbers s whole) (sourceSize : Nat) :
    first.Continues bytes numbers (s.finish sourceSize) (whole.finish (sourceSize + bytes)) := by
  obtain ⟨state, c⟩ := s
  obtain ⟨state', c'⟩ := whole
  obtain ⟨rfl, hc⟩ := h
  rcases state with _ | _ | draft
  · exact hc
  · exact hc
  · exact hc.unterminated draft sourceSize

end Scan.Continues

theorem fileId_scan (fileId : Nat) (source : Text) : (scan fileId source).fileId = fileId := by
  obtain ⟨blocks, hlayout⟩ := exists_layout (Text.lines source)
  rw [scan_eq_foldl_collect fileId hlayout]
  exact List.foldlRecOn (motive := fun c : Collector => c.fileId = fileId) blocks _ rfl
    fun c hc b _ => (b.collect_eq source.size c).1.trans hc

/-- Where a source leaves no block open, what follows it is scanned as if it were alone. -/
theorem continues_scan {fileId : Nat} {before : Text}
    (ends : before = [] ∨ before.getLast? = some '\n')
    (closed : (scanned fileId before).state = .outside) (after : Text) :
    (scan fileId before).Continues before.size (scan fileId before).document.ids.length
      (scan fileId after) (scan fileId (before ++ after)) := by
  have hbefore : scanned fileId before = ⟨.outside, scan fileId before⟩ := by
    rw [scan, ← scanned]
    revert closed
    rcases scanned fileId before with ⟨state, c⟩
    rintro rfl
    rfl
  have hnext : (scan fileId before).nextId =
      SnippetId.first.advance (scan fileId before).document.ids.length := by
    obtain ⟨n, hnext, hids⟩ := Collector.invariant_numbered.scan_plain fileId before
    rw [hnext, hids, SnippetId.advance_first, List.length_map, List.length_range]
  have hstart : Scan.Continues (scan fileId before) before.size
      (scan fileId before).document.ids.length (.start fileId) ⟨.outside, scan fileId before⟩ :=
    ⟨rfl, ⟨fileId_scan fileId before, hnext, by simp [Scan.start, Collector.empty],
      by simp [Scan.start, Collector.empty]⟩⟩
  have hwhole : scanned fileId (before ++ after) =
      ((Text.lines after).map (Line.shift before.size)).foldl Scan.step
        ⟨.outside, scan fileId before⟩ := by
    rw [scanned, Text.lines_append ends, List.foldl_append, ← scanned, hbefore]
  have hfinish := (hstart.foldl_step (Text.lines after)).finish after.size
  rwa [← hwhole, ← scanned, Nat.add_comm, ← Text.size_append] at hfinish

end Plain

/-- The snippets of two sources one after the other are those of the first and then those of the second,
with the numbers after the numbers of the first and the spans after its bytes; so are the warnings. -/
theorem Document.read_append {fileId : Nat} {before : Text}
    (ends : before = [] ∨ before.getLast? = some '\n')
    (closed : (Plain.scanned fileId before).state = .outside) (after : Text) :
    (read .plain fileId (before ++ after)).snippets = (read .plain fileId before).snippets ++
        (read .plain fileId after).snippets.map
          (Snippet.shift before.size (read .plain fileId before).nonLibraries.length) ∧
      (read .plain fileId (before ++ after)).notices = (read .plain fileId before).notices ++
        (read .plain fileId after).notices.map (Notice.shift before.size) := by
  have h := Plain.continues_scan ends closed after
  have hcount := (Collector.invariant_identified.scan_plain fileId before).length_nonLibraries
  rw [← hcount] at h
  exact ⟨h.snippets, h.notices⟩

/-- Ends of lines of both kinds, a library, a snippet and a block that is ignored. -/
def Document.firstSource : Text :=
  "é\r\n```sh\r\n#%lib: base\r\nß\r\n```\n~~~\n```python3 x\n#%inc: base\n````\n```rust\n```\n"

/-- A fence without a tag, a snippet, and a block that is left open. -/
def Document.secondSource : Text := "```\nü\n```py\n#%name: top\nx\n``\n```\n```awk\n#%inc: top\n"

theorem Document.read_firstSource_append :
    (firstSource = [] ∨ firstSource.getLast? = some '\n') ∧
    (Plain.scanned 0 firstSource).state = .outside ∧
    (read .plain 0 (firstSource ++ secondSource)).snippets = (read .plain 0 firstSource).snippets ++
      (read .plain 0 secondSource).snippets.map (Snippet.shift 78 1) ∧
    (read .plain 0 (firstSource ++ secondSource)).notices = (read .plain 0 firstSource).notices ++
      (read .plain 0 secondSource).notices.map (Notice.shift 78) := by
  have ends : firstSource = [] ∨ firstSource.getLast? = some '\n' := by decide +kernel
  have closed : (Plain.scanned 0 firstSource).state = .outside := by rfl
  have hsize : firstSource.size = 78 := by decide +kernel
  have hcount : (read .plain 0 firstSource).nonLibraries.length = 1 := by decide +kernel
  have h := read_append ends closed secondSource
  rw [hsize, hcount] at h
  exact ⟨ends, closed, h⟩

end Snippetry
