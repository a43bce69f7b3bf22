import Snippetry.Proofs.Fence.Scan
import Snippetry.Proofs.Text.Lines

/-! # What a source says, wherever it stands

Spans and file numbers do not bear on what a snippet is. Without them a scanner is left with the tags of
the blocks and the texts of their lines, and two sources with the same ones read the same. -/
namespace Snippetry

def Span.nowhere : Span := ⟨0, 0⟩

def SourceLine.unplaced (l : SourceLine) : SourceLine := ⟨l.text, .nowhere⟩

def Snippet.unplaced (s : Snippet) : Snippet :=
  { s with rawLines := s.rawLines.map SourceLine.unplaced, span := .nowhere }

def Notice.unplaced (n : Notice) : Notice := ⟨n.cause, .nowhere, 0⟩

namespace Draft

def unplaced (d : Draft) : Draft := { d with lines := d.lines.map SourceLine.unplaced, start := 0 }

theorem unplaced_push (d : Draft) (l : SourceLine) :
    (d.push l).unplaced = d.unplaced.push l.unplaced := by
  unfold push
  simp only [SourceLine.unplaced]
  split <;> simp [unplaced, SourceLine.unplaced]

def ofTexts (language : Language) (texts : List Text) : Draft :=
  texts.foldl (fun d t => d.push ⟨t, .nowhere⟩) (.ofLanguage language 0)

theorem ofTexts_concat (language : Language) (texts : List Text) (t : Text) :
    ofTexts language (texts ++ [t]) = (ofTexts language texts).push ⟨t, .nowhere⟩ := by
  simp [ofTexts]

theorem unplaced_pushLines (language : Language) (start : Nat) (lines : List Line) :
    ((ofLanguage language start).pushLines lines).unplaced =
      ofTexts language (lines.map Line.text) := by
  rw [pushLines, ofTexts, List.foldl_map]
  exact (List.foldl_hom unplaced fun d l => (unplaced_push d ⟨l.text, l.span⟩).symm).symm

end Draft

namespace Collector

def unplaced (c : Collector) : Collector :=
  ⟨0, c.nextId, c.snippets.map Snippet.unplaced, c.notices.map Notice.unplaced, []⟩

/-- What is said of a document does not tell where. -/
theorem map_message_unplaced (c : Collector) :
    c.unplaced.notices.map Notice.message = c.notices.map Notice.message :=
  List.map_map

theorem unplaced_close (c : Collector) (d : Draft) (stop : Nat) :
    (c.close d stop).unplaced = c.unplaced.close d.unplaced 0 := by
  unfold close
  cases h : d.isLibrary <;> simp [unplaced, Draft.unplaced, Snippet.unplaced, h, Span.nowhere]

/-- A closed block with a tag, wherever it stands. -/
def enter (c : Collector) (tag : Text) (texts : List Text) : Collector :=
  match Language.ofTag? tag with
  | none => { c with notices := c.notices ++ [⟨.unknownLanguage tag, .nowhere, 0⟩] }
  | some language => c.close (.ofTexts language texts) 0

/-- A block is opened, its draft is filled with the lines, and it is closed. -/
theorem unplaced_block (c : Collector) (tag : Text) (span : Span) (texts : List Text)
    (fill : Draft → Draft) (stop : Nat)
    (hfill : ∀ language, (fill (.ofLanguage language span.start)).unplaced = .ofTexts language texts) :
    ((c.openBlock tag span).2.elim (c.openBlock tag span).1
      fun d => (c.openBlock tag span).1.close (fill d) stop).unplaced = c.unplaced.enter tag texts := by
  unfold openBlock enter
  cases Language.ofTag? tag with
  | none => simp [unplaced, Notice.unplaced]
  | some language =>
    rw [Option.elim_some, unplaced_close, hfill]
    rfl

end Collector

/-! ## Fences as they are written -/

/-- A block as it is written: some ticks and a word, the body, and as many ticks. -/
structure Fenced where
  ticks : Nat
  word : Text
  body : List Text

namespace Fenced

def fence (b : Fenced) : Text := List.replicate b.ticks '\x60'

def lines (b : Fenced) : List Text := (b.fence ++ b.word) :: (b.body ++ [b.fence])

structure Readable (b : Fenced) : Prop where
  ticks : 3 ≤ b.ticks
  word : ∀ c ∈ b.word, isWord c = true
  body : ∀ t ∈ b.body, ¬ Plain.IsFence t

/-- A block without a word is none. -/
def enter (b : Fenced) (c : Collector) : Collector :=
  if b.word = [] then c else c.enter b.word b.body

variable {b : Fenced}

theorem isFence_fence (h : 3 ≤ b.ticks) : Plain.IsFence b.fence := by
  obtain ⟨n, hn⟩ := Nat.exists_eq_add_of_le h
  rw [fence, hn, ← List.replicate_append_replicate]
  exact List.prefix_append _ _

theorem Readable.tagged (h : b.Readable) (hw : b.word ≠ []) :
    Plain.Tagged (b.fence ++ b.word) b.word := by
  have htagged : Plain.Tagged (b.fence ++ ([] ++ (b.word ++ []))) b.word :=
    .intro (by simpa [fence] using h.ticks) (by simp [fence]) (by simp) hw h.word (by simp)
  simpa using htagged

/-- What is in no line of the body is in no line of the block, if it cannot be part of a fence. -/
theorem notMem_lines (hw : ∀ c ∈ b.word, isWord c = true) {c : Char} (hc : isWord c = false)
    (htick : c ≠ '\x60') (hbody : ∀ t ∈ b.body, c ∉ t) : ∀ t ∈ b.lines, c ∉ t := by
  have hfence : c ∉ b.fence := fun hm => htick (List.eq_of_mem_replicate hm)
  have hword : c ∉ b.word := fun hm => Bool.false_ne_true (hc.symm.trans (hw c hm))
  intro t ht
  simp only [lines, List.mem_cons, List.mem_append, List.mem_nil_iff, or_false] at ht
  rcases ht with rfl | ht | rfl
  · exact fun hm => (List.mem_append.mp hm).elim hfence hword
  · exact hbody t ht
  · exact hfence

/-- Nothing but ticks is no fence with a tag. -/
theorem not_tagged_fence (b : Fenced) (tag : Text) : ¬ Plain.Tagged b.fence tag := by
  intro h
  have hticks : ∀ c ∈ b.fence, c = '\x60' := fun c => List.eq_of_mem_replicate
  generalize b.fence = line at h hticks
  obtain ⟨-, -, -, hn, hw, -⟩ := h
  obtain ⟨c, w, rfl⟩ := List.exists_cons_of_ne_nil hn
  have hword := hw c List.mem_cons_self
  rw [hticks c (by simp)] at hword
  revert hword
  decide

end Fenced

namespace Plain

/-- A block that is written is read, with the lines after it as long as they open none. -/
theorem exists_foldl_step_fenced {b : Fenced} (h : b.Readable) {gap : List Text}
    (hgap : ∀ t ∈ gap, ∀ tag, ¬ Tagged t tag) {lines : List Line}
    (hlines : lines.map Line.text = b.lines ++ gap) (c : Collector) :
    ∃ c', lines.foldl Scan.step ⟨.outside, c⟩ = ⟨.outside, c'⟩ ∧
      c'.unplaced = b.enter c.unplaced := by
  have hparts : lines.map Line.text = (b.fence ++ b.word) :: (b.body ++ b.fence :: gap) := by
    simpa [Fenced.lines] using hlines
  by_cases hw : b.word = []
  · refine ⟨c, foldl_step_plain fun l hl => ?_, by rw [Fenced.enter, if_pos hw]⟩
    have hmem := hparts ▸ List.mem_map_of_mem (f := Line.text) hl
    simp only [hw, List.append_nil, List.mem_cons, List.mem_append] at hmem
    rcases hmem with ht | ht | ht | ht
    · exact ht ▸ b.not_tagged_fence
    · exact not_tagged_of_not_isFence (h.body _ ht)
    · exact ht ▸ b.not_tagged_fence
    · exact hgap _ ht
  · obtain ⟨opener, rest, rfl, hopener, hrest⟩ := List.map_eq_cons_iff.mp hparts
    obtain ⟨body, rest, rfl, hbody, hrest⟩ := List.map_eq_append_iff.mp hrest
    obtain ⟨closer, after, rfl, hcloser, hafter⟩ := List.map_eq_cons_iff.mp hrest
    have opens : Tagged opener.text b.word := hopener ▸ h.tagged hw
    have inner : ∀ l ∈ body, ¬ IsFence l.text := fun l hl =>
      h.body _ (hbody ▸ List.mem_map_of_mem (f := Line.text) hl)
    have closes : IsFence closer.text := hcloser ▸ Fenced.isFence_fence h.ticks
    have plain : ∀ l ∈ after, ∀ tag, ¬ Tagged l.text tag := fun l hl =>
      hgap _ (hafter ▸ List.mem_map_of_mem (f := Line.text) hl)
    have hblock := c.unplaced_block b.word opener.span b.body (Draft.pushLines · body)
      closer.span.stop fun language => hbody ▸ Draft.unplaced_pushLines language _ body
    refine ⟨_, ?_, by rwa [Fenced.enter, if_neg hw]⟩
    rw [List.foldl_cons, step_opener opens, List.foldl_append, foldl_step_inner inner,
      List.foldl_cons, step_closer closes, foldl_step_plain plain]
    cases (c.openBlock b.word opener.span).2 <;> rfl

theorem exists_foldl_step_blocks {blocks : List Fenced} (h : ∀ b ∈ blocks, b.Readable)
    {gap : List Text} (hgap : ∀ t ∈ gap, ∀ tag, ¬ Tagged t tag) {lines : List Line}
    (hlines : lines.map Line.text = blocks.flatMap fun b => b.lines ++ gap) (c : Collector) :
    ∃ c', lines.foldl Scan.step ⟨.outside, c⟩ = ⟨.outside, c'⟩ ∧
      c'.unplaced = blocks.foldl (fun c b => b.enter c) c.unplaced := by
  induction blocks generalizing lines c with
  | nil =>
    obtain rfl : lines = [] := by simpa using hlines
    exact ⟨c, rfl, rfl⟩
  | cons b blocks ih =>
    rw [List.flatMap_cons] at hlines
    obtain ⟨first, rest, rfl, hfirst, hrest⟩ := List.map_eq_append_iff.mp hlines
    obtain ⟨middle, hmiddle, hentered⟩ :=
      exists_foldl_step_fenced (h b List.mem_cons_self) hgap hfirst c
    obtain ⟨c', hc', hblocks⟩ := ih (fun b hb => h b (List.mem_cons_of_mem _ hb)) hrest middle
    exact ⟨c', by rw [List.foldl_append, hmiddle, hc'], by rw [List.foldl_cons, ← hentered, hblocks]⟩

/-- A source that is written as blocks is read as these. -/
theorem unplaced_scan_of_fenced {blocks : List Fenced} (h : ∀ b ∈ blocks, b.Readable)
    {gap : List Text} (hgap : ∀ t ∈ gap, ∀ tag, ¬ Tagged t tag) {source : Text}
    (hsource : (Text.lines source).map Line.text = blocks.flatMap fun b => b.lines ++ gap)
    (fileId : Nat) :
    (scan fileId source).unplaced = blocks.foldl (fun c b => b.enter c) (.empty 0) := by
  obtain ⟨c, hrun, hc⟩ := exists_foldl_step_blocks h hgap hsource (.empty fileId)
  rw [scan, Scan.start, hrun]
  exact hc

end Plain
end Snippetry
