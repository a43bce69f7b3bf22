import Snippetry.Proofs.Fence.Location
import Snippetry.Proofs.Text.Numbering

/-! # Sources with the same lines at other places

What is read from a source with plain fences depends on where its lines are only in its spans. So a
source is read the same whichever way its lines end, but for the bytes that this takes. -/
namespace Snippetry

/-! ## The same at other places -/

def Span.relocate (f : Nat → Nat) (s : Span) : Span := ⟨f s.start, f s.stop⟩

def Line.relocate (f : Nat → Nat) (l : Line) : Line := ⟨f l.start, l.text⟩

def SourceLine.relocate (f : Nat → Nat) (l : SourceLine) : SourceLine := ⟨l.text, l.span.relocate f⟩

def Snippet.relocate (f : Nat → Nat) (s : Snippet) : Snippet :=
  { s with rawLines := s.rawLines.map (SourceLine.relocate f), span := s.span.relocate f }

def Notice.relocate (f : Nat → Nat) (n : Notice) : Notice := { n with span := n.span.relocate f }

def Document.relocate (f : Nat → Nat) (d : Document) : Document :=
  { d with snippets := d.snippets.map (Snippet.relocate f), notices := d.notices.map (Notice.relocate f) }

def Line.Keeps (f : Nat → Nat) (l : Line) : Prop := (l.relocate f).span = l.span.relocate f

namespace Draft

def relocate (f : Nat → Nat) (d : Draft) : Draft :=
  { d with lines := d.lines.map (SourceLine.relocate f), start := f d.start }

theorem relocate_push (f : Nat → Nat) (d : Draft) (l : SourceLine) :
    (d.push l).relocate f = (d.relocate f).push (l.relocate f) := by
  unfold push
  simp only [SourceLine.relocate]
  split <;> simp [relocate, SourceLine.relocate]

theorem relocate_pushLines {f : Nat → Nat} {lines : List Line} (h : ∀ l ∈ lines, l.Keeps f)
    (d : Draft) : (d.pushLines lines).relocate f = (d.relocate f).pushLines (lines.map (Line.relocate f)) := by
  induction lines generalizing d with
  | nil => rfl
  | cons l lines ih =>
    have hpush : (d.push ⟨l.text, l.span⟩).relocate f =
        (d.relocate f).push ⟨(l.relocate f).text, (l.relocate f).span⟩ := by
      rw [h l List.mem_cons_self]
      exact relocate_push f d ⟨l.text, l.span⟩
    have hrest := ih (fun l hl => h l (List.mem_cons_of_mem _ hl)) (d.push ⟨l.text, l.span⟩)
    rwa [hpush] at hrest

end Draft

/-- The second collector has the same as the first one, at other places. -/
structure Collector.Relocates (f : Nat → Nat) (c c' : Collector) : Prop where
  document : c'.document = c.document.relocate f
  nextId : c'.nextId = c.nextId

namespace Collector.Relocates

variable {f : Nat → Nat} {c c' : Collector}

theorem fileId (h : c.Relocates f c') : c'.fileId = c.fileId := congrArg Document.sourceId h.document

theorem snippets (h : c.Relocates f c') : c'.snippets = c.snippets.map (Snippet.relocate f) :=
  congrArg Document.snippets h.document

theorem notices (h : c.Relocates f c') : c'.notices = c.notices.map (Notice.relocate f) :=
  congrArg Document.notices h.document

theorem openBlock (h : c.Relocates f c') (tag : Text) (span : Span) :
    (c.openBlock tag span).1.Relocates f (c'.openBlock tag (span.relocate f)).1 ∧
      (c'.openBlock tag (span.relocate f)).2 = (c.openBlock tag span).2.map (Draft.relocate f) := by
  unfold Collector.openBlock
  cases Language.ofTag? tag with
  | none =>
    refine ⟨⟨?_, h.nextId⟩, rfl⟩
    simp [Collector.document, Document.relocate, Notice.relocate, h.fileId, h.snippets, h.notices]
  | some language => exact ⟨⟨h.document, h.nextId⟩, rfl⟩

theorem close (h : c.Relocates f c') (d : Draft) (stop : Nat) :
    (c.close d stop).Relocates f (c'.close (d.relocate f) (f stop)) := by
  unfold Collector.close
  cases hlibrary : d.isLibrary with
  | true =>
    refine ⟨?_, ?_⟩ <;> simp [Collector.document, Document.relocate, Snippet.relocate, Span.relocate,
      Draft.relocate, hlibrary, h.fileId, h.nextId, h.snippets, h.notices]
  | false =>
    refine ⟨?_, ?_⟩ <;> simp [Collector.document, Document.relocate, Snippet.relocate, Span.relocate,
      Draft.relocate, hlibrary, h.fileId, h.nextId, h.snippets, h.notices]

theorem unterminated (h : c.Relocates f c') (d : Draft) (stop : Nat) :
    (c.unterminated d stop).Relocates f (c'.unterminated (d.relocate f) (f stop)) := by
  refine ⟨?_, h.nextId⟩
  simp [Collector.unterminated, Collector.document, Document.relocate, Notice.relocate, Span.relocate,
    Draft.relocate, h.fileId, h.snippets, h.notices]

end Collector.Relocates

namespace Plain

variable {f : Nat → Nat}

def Block.relocate (f : Nat → Nat) (b : Block) : Block :=
  ⟨b.opener.relocate f, b.tag, b.body.map (Line.relocate f), b.closer.map (Line.relocate f)⟩

/-- Fences are fences at any place. -/
theorem Layout.relocate {lines : List Line} {blocks : List Block} (h : Layout lines blocks)
    (f : Nat → Nat) : Layout (lines.map (Line.relocate f)) (blocks.map (Block.relocate f)) := by
  have hall (p : Text → Prop) {ls : List Line} (hp : ∀ l ∈ ls, p l.text) :
      ∀ l ∈ ls.map (Line.relocate f), p l.text := by
    intro l hl
    obtain ⟨l', hl', rfl⟩ := List.mem_map.mp hl
    exact hp l' hl'
  have hplain {ls : List Line} (h : ∀ l ∈ ls, ∀ tag, ¬ Tagged l.text tag) :=
    hall (fun t => ∀ tag, ¬ Tagged t tag) h
  have hinner {ls : List Line} (h : ∀ l ∈ ls, ¬ IsFence l.text) := hall (fun t => ¬ IsFence t) h
  induction h with
  | outside plain => exact .outside (hplain plain)
  | unclosed plain opens inner =>
    rw [List.map_append, List.map_cons]
    exact .unclosed (hplain plain) opens (hinner inner)
  | closed plain opens inner closes _ ih =>
    rw [List.map_append, List.map_cons, List.map_append, List.map_cons]
    exact .closed (hplain plain) opens (hinner inner) closes ih

theorem Block.collect_relocates {b : Block} (hb : ∀ l ∈ b.lines, l.Keeps f) {c c' : Collector}
    (h : c.Relocates f c') (sourceSize : Nat) :
    (b.collect sourceSize c).Relocates f ((b.relocate f).collect (f sourceSize) c') := by
  obtain ⟨opener, tag, body, closer⟩ := b
  have hopener : (opener.relocate f).span = opener.span.relocate f := hb opener List.mem_cons_self
  have hbody : ∀ l ∈ body, l.Keeps f := fun l hl => hb l (by simp [lines, hl])
  obtain ⟨hopened, hdraft⟩ := h.openBlock tag opener.span
  simp only [collect, relocate, hopener, hdraft]
  cases (c.openBlock tag opener.span).2 with
  | none => exact hopened
  | some draft =>
    have hpush := Draft.relocate_pushLines hbody draft
    cases closer with
    | none =>
      simp only [Option.map_some, Option.map_none, ← hpush]
      exact hopened.unterminated _ sourceSize
    | some closer =>
      have hcloser : (closer.relocate f).span = closer.span.relocate f := hb closer (by simp [lines])
      simp only [Option.map_some, ← hpush, hcloser]
      exact hopened.close _ closer.span.stop

theorem foldl_collect_relocates {blocks : List Block} (hb : ∀ b ∈ blocks, ∀ l ∈ b.lines, l.Keeps f)
    {c c' : Collector} (h : c.Relocates f c') (sourceSize : Nat) :
    (blocks.foldl (Block.collect sourceSize) c).Relocates f
      ((blocks.map (Block.relocate f)).foldl (Block.collect (f sourceSize)) c') := by
  induction blocks generalizing c c' with
  | nil => exact h
  | cons b blocks ih =>
    exact ih (fun b hm => hb b (List.mem_cons_of_mem _ hm))
      (Block.collect_relocates (hb b List.mem_cons_self) h sourceSize)

/-- Two sources with the same lines are read the same, each at its places. -/
theorem scan_relocates {source source' : Text}
    (hlines : Text.lines source' = (Text.lines source).map (Line.relocate f))
    (hkeeps : ∀ l ∈ Text.lines source, l.Keeps f) (hsize : source'.size = f source.size) (fileId : Nat) :
    (scan fileId source).Relocates f (scan fileId source') := by
  obtain ⟨blocks, hlayout⟩ := exists_layout (Text.lines source)
  have hlayout' : Layout (Text.lines source') (blocks.map (Block.relocate f)) :=
    hlines ▸ hlayout.relocate f
  have hb : ∀ b ∈ blocks, ∀ l ∈ b.lines, l.Keeps f := by
    intro b hb l hl
    obtain ⟨before, after, hsource⟩ := hlayout.exists_append hb
    exact hkeeps l (by simp [hsource, hl])
  rw [scan_eq_foldl_collect fileId hlayout, scan_eq_foldl_collect fileId hlayout', hsize]
  exact foldl_collect_relocates hb ⟨rfl, rfl⟩ source.size

end Plain

/-! ## Ends of lines -/

namespace Text

def returned (t : Text) : Text := t.flatMap fun c => if c = '\n' then ['\r', '\n'] else [c]

/-- Where byte `offset` of a source is when there is a carriage return before every newline. -/
def returnedOffset (source : Text) (offset : Nat) : Nat := offset + newlinesBefore offset source

theorem returned_append (s t : Text) : returned (s ++ t) = returned s ++ returned t :=
  List.flatMap_append

theorem returned_of_notMem {t : Text} (h : '\n' ∉ t) : returned t = t := by
  induction t with
  | nil => rfl
  | cons c t ih =>
    have hc : c ≠ '\n' := fun e => h (e ▸ List.mem_cons_self)
    have hrest := ih fun m => h (List.mem_cons_of_mem _ m)
    unfold returned at hrest ⊢
    rw [List.flatMap_cons, if_neg hc, hrest, List.singleton_append]

theorem returned_newline (t : Text) : returned ('\n' :: t) = '\r' :: '\n' :: returned t := rfl

theorem size_returned (t : Text) : size (returned t) = t.size + t.count '\n' := by
  induction t with
  | nil => rfl
  | cons c t ih =>
    by_cases hc : c = '\n'
    · subst hc
      have hr : '\r'.utf8Size = 1 := rfl
      rw [returned_newline, size_cons, size_cons, size_cons, ih, List.count_cons_self, hr]
      omega
    · have hcons : returned (c :: t) = c :: returned t := by simp [returned, hc]
      rw [hcons, size_cons, size_cons, ih, List.count_cons_of_ne hc]
      omega

/-- What was before a place is before it still. -/
theorem returnedOffset_append (before after : Text) :
    returnedOffset (before ++ after) before.size = size (returned before) := by
  rw [returnedOffset, newlinesBefore_size, size_returned]

theorem returnedOffset_size (source : Text) :
    returnedOffset source source.size = size (returned source) := by
  simpa using returnedOffset_append source []

theorem linesAt_returned {source : Text} (before rest : Text) (h : source = before ++ rest)
    (hr : '\r' ∉ rest) : linesAt (size (returned before)) (cutLines (returned rest)) =
      (linesAt before.size (cutLines rest)).map (Line.relocate (returnedOffset source)) := by
  have hoffset (before after : Text) (h : source = before ++ after) :
      size (returned before) = returnedOffset source before.size := by
    rw [h, returnedOffset_append]
  have hlast {t : Text} (ht : '\r' ∉ t) : t.getLast? ≠ some '\r' := fun e =>
    ht (List.mem_of_getLast? e)
  induction rest using line_induction generalizing before with
  | nil => rfl
  | last t hn hne =>
    have hends : LastEnd t [] := .nothing hne (hlast hr)
    have hcut := hends.cutLines hn
    rw [List.append_nil] at hcut
    rw [returned_of_notMem hn, hcut, hoffset before t h]
    rfl
  | cons t rest hn ih =>
    have ht : '\r' ∉ t := fun m => hr (List.mem_append_left _ m)
    have hrest : '\r' ∉ rest := fun m => hr (List.mem_append_right _ (List.mem_cons_of_mem _ m))
    have hnewline : LineEnd t ['\n'] := .newline (hlast ht)
    have hreturned : LineEnd t ['\r', '\n'] := .returned
    have hline : returned (t ++ ['\n']) = t ++ ['\r', '\n'] := by
      rw [returned_append, returned_of_notMem hn]
      rfl
    rw [List.append_cons] at h ⊢
    have hafter := ih (before ++ (t ++ ['\n'])) (h.trans (List.append_assoc ..).symm) hrest
    rw [returned_append, hline, size_append before, size_append (returned before)] at hafter
    rw [returned_append, hline, hreturned.cutLines hn, hnewline.cutLines hn, linesAt, linesAt,
      hreturned.chomp, hnewline.chomp, List.map_cons, hafter, hoffset before _ h]
    rfl

theorem lines_returned {source : Text} (h : '\r' ∉ source) :
    lines (returned source) = (lines source).map (Line.relocate (returnedOffset source)) :=
  linesAt_returned [] source rfl h

/-- No carriage return is put into a line. -/
theorem keeps_of_mem_lines {source : Text} {line : Line} (h : line ∈ lines source) :
    line.Keeps (returnedOffset source) := by
  obtain ⟨before, after, hsource, hspan⟩ := slice?_eq_some_iff.mp (slice?_of_mem_lines h)
  have hstart : line.start = before.size := congrArg Span.start hspan
  have hfirst : returnedOffset source before.size = size (returned before) := by
    rw [hsource, List.append_assoc, returnedOffset_append]
  have hlast : returnedOffset source (before.size + line.text.size) =
      size (returned before) + line.text.size := by
    rw [← size_append, hsource, returnedOffset_append, returned_append,
      returned_of_notMem (newline_notMem_of_mem_lines h), size_append]
  simp only [Line.Keeps, Line.span, Line.relocate, Span.relocate, hstart, hfirst, hlast]

end Text

/-- A source without carriage returns says the same when there is one before every newline: its spans are
further on by the newlines before them, and nothing else changes. -/
theorem Document.read_returned {source : Text} (h : '\r' ∉ source) (fileId : Nat) :
    read .plain fileId source.returned = (read .plain fileId source).relocate source.returnedOffset :=
  (Plain.scan_relocates (Text.lines_returned h) (fun _ hl => Text.keeps_of_mem_lines hl)
    (Text.returnedOffset_size source).symm fileId).document

/-- A library, a block that is ignored, a snippet, and a block that is left open in a line without an
end. -/
def Document.raggedSource : Text :=
  "é\n```sh\n#%lib: base\nß\n```\n```rust\n```\n````py x\n#%name: top\n#%inc: base\n```\n```awk\nü"

theorem Document.read_raggedSource_returned : '\r' ∉ raggedSource ∧
    read .plain 0 raggedSource.returned =
      (read .plain 0 raggedSource).relocate raggedSource.returnedOffset ∧
    (read .plain 0 raggedSource).snippets.map Snippet.span = [⟨3, 27⟩, ⟨40, 76⟩] ∧
    (read .plain 0 raggedSource.returned).snippets.map Snippet.span = [⟨4, 31⟩, ⟨47, 86⟩] ∧
    (read .plain 0 raggedSource.returned).notices.map Notice.span = [⟨33, 40⟩, ⟨88, 98⟩] := by
  have hclear : '\r' ∉ raggedSource := by decide +kernel
  have hread := read_returned hclear 0
  refine ⟨hclear, hread, by decide +kernel, ?_, ?_⟩ <;> rw [hread] <;> decide +kernel

end Snippetry
