import Snippetry.Proofs.Fence.Unplaced

/-! # Both readings of plain fences agree

A matched fence hands over the text of its block in pieces, which may be cut anywhere; put together
again they are the lines that a scan for plain fences meets one by one. So where every block is closed
by the fence that opened it, it makes no difference how a source is read, except for the spans. -/
namespace Snippetry

namespace Matched.Assembly

/-- What there is after a text: its complete lines are with the draft, the rest of it is the line that
is being put together. -/
structure Holds (language : Language) (done : List Text) (text : Text) (a : Assembly) : Prop where
  text : text = done.flatMap (· ++ ['\n']) ++ a.line.text
  inner : ∀ t ∈ done, '\n' ∉ t
  rest : '\n' ∉ a.line.text
  draft : a.draft.unplaced = .ofTexts language done
  start : a.line.start = none ↔ a.line.text = []

variable {language : Language} {done : List Text} {text : Text} {a : Assembly}

theorem holds_start (language : Language) (start : Nat) :
    (Assembly.start (.ofLanguage language start)).Holds language [] [] where
  text := rfl
  inner := by simp
  rest := by simp [Assembly.start]
  draft := rfl
  start := by simp [Assembly.start]

theorem Holds.pushPart_end (h : a.Holds language done text) {part : Text} (hn : '\n' ∉ part)
    (hr : '\r' ∉ part) (offset : Nat) : (a.pushPart offset (part ++ ['\n'])).Holds language
      (done ++ [a.line.text ++ part]) (text ++ (part ++ ['\n'])) := by
  have hchop : Text.chopEnd '\r' part = part :=
    Text.chopEnd_of_ne fun he => hr (List.mem_of_getLast? he)
  have hpush : a.pushPart offset (part ++ ['\n']) = ⟨a.draft.push ⟨a.line.text ++ part,
      ⟨a.line.start.getD offset, offset + (part ++ ['\n']).size - 1⟩⟩, [], none⟩ := by
    simp only [pushPart, List.getLast?_concat, List.dropLast_concat, hchop]
  rw [hpush]
  refine ⟨?_, ?_, by simp, ?_, by simp⟩
  · simp [h.text]
  · intro t ht
    rcases List.mem_append.mp ht with ht | ht
    · exact h.inner t ht
    · rw [List.mem_singleton.mp ht]
      simp [h.rest, hn]
  · rw [Draft.unplaced_push, h.draft, Draft.ofTexts_concat]
    rfl

theorem Holds.pushPart_inner (h : a.Holds language done text) {part : Text} (hn : '\n' ∉ part)
    (hne : part ≠ []) (offset : Nat) :
    (a.pushPart offset part).Holds language done (text ++ part) := by
  have hpush : a.pushPart offset part =
      ⟨a.draft, a.line.text ++ part, some (a.line.start.getD offset)⟩ := by
    unfold pushPart
    split
    · next hlast => exact absurd (List.mem_of_getLast? hlast) hn
    · rfl
  rw [hpush]
  exact ⟨by simp [h.text], h.inner, by simp [h.rest, hn], h.draft, by simp [hne]⟩

theorem Holds.pushParts (h : a.Holds language done text) {piece : Text} (hr : '\r' ∉ piece)
    (offset : Nat) :
    ∃ done, (a.pushParts offset (Text.cutLines piece)).Holds language done (text ++ piece) := by
  induction piece using Text.line_induction generalizing a done text offset with
  | nil => exact ⟨done, by simpa [Text.cutLines, Assembly.pushParts] using h⟩
  | last part hn hne =>
    rw [Text.cutLines_of_notMem hn hne]
    exact ⟨done, h.pushPart_inner hn hne offset⟩
  | cons part rest hn ih =>
    rw [Text.cutLines_append hn]
    have hpart : '\r' ∉ part := fun hm => hr (List.mem_append_left _ hm)
    have hrest : '\r' ∉ rest := fun hm => hr (List.mem_append_right _ (List.mem_cons_of_mem _ hm))
    obtain ⟨done', h'⟩ := ih (h.pushPart_end hn hpart offset) hrest (offset + (part ++ ['\n']).size)
    have htext : text ++ (part ++ '\n' :: rest) = text ++ (part ++ ['\n']) ++ rest := by simp
    exact ⟨done', htext ▸ h'⟩

theorem Holds.foldl_push (h : a.Holds language done text) {pieces : List Markdown.Piece}
    (hr : ∀ piece ∈ pieces, '\r' ∉ piece.text) :
    ∃ done, (pieces.foldl push a).Holds language done (text ++ pieces.flatMap Markdown.Piece.text) := by
  induction pieces generalizing a done text with
  | nil => exact ⟨done, by simpa using h⟩
  | cons piece pieces ih =>
    obtain ⟨done', h'⟩ := h.pushParts (hr piece List.mem_cons_self) piece.start
    obtain ⟨done'', h''⟩ := ih h' fun other hm => hr other (List.mem_cons_of_mem _ hm)
    rw [List.flatMap_cons, ← List.append_assoc]
    exact ⟨done'', h''⟩

/-- After lines with their ends nothing is left over. -/
theorem Holds.unplaced_finish {body : List Text} (hb : ∀ t ∈ body, '\n' ∉ t)
    (h : a.Holds language done (body.flatMap (· ++ ['\n']))) :
    a.finish.unplaced = .ofTexts language body := by
  have hcut := congrArg Text.cutLines ((List.append_nil _).trans h.text)
  rw [Text.cutLines_flatMap hb, Text.cutLines_flatMap h.inner] at hcut
  by_cases hrest : a.line.text = []
  · rw [hrest] at hcut
    have hdone : body = done :=
      List.map_injective_iff.mpr (fun s t hst => List.append_cancel_right hst) (by simpa using hcut)
    rw [finish, h.start.mpr hrest, h.draft, hdone]
  · rw [Text.cutLines_of_notMem h.rest hrest] at hcut
    have hmem : a.line.text ∈ body.map (· ++ ['\n']) := by
      have hlast : a.line.text ∈ done.map (· ++ ['\n']) ++ [a.line.text] := by simp
      rw [← hcut] at hlast
      simpa [Text.cutLines] using hlast
    obtain ⟨t, -, ht⟩ := List.mem_map.mp hmem
    exact absurd (ht ▸ by simp) h.rest

end Matched.Assembly

namespace Fenced

/-- Not even after spaces does a line of the body begin with three ticks, and none has an end inside. -/
structure Clear (b : Fenced) : Prop where
  ticks : 3 ≤ b.ticks
  word : ∀ c ∈ b.word, isWord c = true
  body : ∀ t ∈ b.body, '\n' ∉ t ∧ '\r' ∉ t ∧ ¬ Plain.IsFence (t.dropWhile (· == ' '))

/-- The block is found with its word and its text, whatever the pieces and the spans are. -/
structure ReportedAs (b : Fenced) (found : Markdown.FencedBlock) : Prop where
  info : found.info = b.word
  pieces : found.pieces.flatMap Markdown.Piece.text = b.body.flatMap (· ++ ['\n'])

instance (b : Fenced) : Decidable b.Clear :=
  decidable_of_iff (3 ≤ b.ticks ∧ b.word.all isWord = true ∧ ∀ t ∈ b.body, '\n' ∉ t ∧ '\r' ∉ t ∧
      ¬ List.replicate 3 '\x60' <+: t.dropWhile (· == ' '))
    ⟨fun ⟨ticks, word, body⟩ => ⟨ticks, List.all_eq_true.mp word, body⟩,
      fun ⟨ticks, word, body⟩ => ⟨ticks, List.all_eq_true.mpr word, body⟩⟩

instance (b : Fenced) (found : Markdown.FencedBlock) : Decidable (b.ReportedAs found) :=
  decidable_of_iff (found.info = b.word ∧
      found.pieces.flatMap Markdown.Piece.text = b.body.flatMap (· ++ ['\n']))
    ⟨fun ⟨info, pieces⟩ => ⟨info, pieces⟩, fun ⟨info, pieces⟩ => ⟨info, pieces⟩⟩

def source (blocks : List Fenced) : Text :=
  (blocks.flatMap fun b => b.lines ++ [[]]).flatMap (· ++ ['\n'])

variable {b : Fenced}

theorem Clear.readable (h : b.Clear) : b.Readable where
  ticks := h.ticks
  word := h.word
  body t ht hf := by
    obtain ⟨rest, rfl⟩ := hf
    exact (h.body _ ht).2.2 ⟨rest, rfl⟩

/-- No line that is written has an end inside. -/
theorem Clear.lineEnd (h : b.Clear) {t : Text} (ht : t ∈ b.lines ++ [[]]) :
    '\n' ∉ t ∧ Text.LineEnd t ['\n'] := by
  have hbare : '\n' ∉ t ∧ '\r' ∉ t := by
    rcases List.mem_append.mp ht with ht | ht
    · exact ⟨notMem_lines h.word (by decide) (by decide) (fun t ht => (h.body t ht).1) t ht,
        notMem_lines h.word (by decide) (by decide) (fun t ht => (h.body t ht).2.1) t ht⟩
    · simp [List.mem_singleton.mp ht]
  exact ⟨hbare.1, .newline fun hlast => hbare.2 (List.mem_of_getLast? hlast)⟩

theorem map_text_lines_source {blocks : List Fenced} (h : ∀ b ∈ blocks, b.Clear) :
    (Text.lines (source blocks)).map Line.text = blocks.flatMap fun b => b.lines ++ [[]] := by
  refine Text.map_text_linesAt (fun t ht => ?_) 0
  obtain ⟨b, hb, ht⟩ := List.mem_flatMap.mp ht
  exact (h b hb).lineEnd ht

theorem word?_of_isWord {word : Text} (hw : ∀ c ∈ word, isWord c = true) :
    Text.word? (Text.trimStart word) = if word = [] then none else some word := by
  have htrim : Text.trimStart word = word := by
    cases word with
    | nil => rfl
    | cons c word =>
      have hblank : isBlank c = false := by
        by_contra hb
        have hnot := isWord_eq_false_of_isBlank (by simpa using hb)
        cases hnot.symm.trans (hw c List.mem_cons_self)
      simp [Text.trimStart, hblank]
  rw [htrim, Text.word?, List.takeWhile_eq_self_iff.mpr hw]

/-- A block that is found in pieces is the one that was written. -/
theorem ReportedAs.unplaced_collect {found : Markdown.FencedBlock} (h : b.ReportedAs found)
    (hb : b.Clear) (c : Collector) : (Matched.collect c found).unplaced = b.enter c.unplaced := by
  have hword := word?_of_isWord hb.word
  by_cases hw : b.word = []
  · rw [if_pos hw] at hword
    simp only [Matched.collect, h.info, hword, enter, if_pos hw]
  · have hreturn : ∀ piece ∈ found.pieces, '\r' ∉ piece.text := by
      intro piece hpiece hm
      have hmem : '\r' ∈ b.body.flatMap (· ++ ['\n']) :=
        h.pieces ▸ List.mem_flatMap.mpr ⟨piece, hpiece, hm⟩
      obtain ⟨t, ht, hmt⟩ := List.mem_flatMap.mp hmem
      exact (hb.body t ht).2.1 (by simpa using hmt)
    have hfill (language : Language) : (found.pieces.foldl Matched.Assembly.push
        (.start (.ofLanguage language found.span.start))).finish.unplaced =
          .ofTexts language b.body := by
      obtain ⟨done, hholds⟩ :=
        (Matched.Assembly.holds_start language found.span.start).foldl_push hreturn
      rw [List.nil_append, h.pieces] at hholds
      exact hholds.unplaced_finish fun t ht => (hb.body t ht).1
    have hblock := c.unplaced_block b.word found.span b.body
      (fun d => (found.pieces.foldl Matched.Assembly.push (.start d)).finish) found.span.stop hfill
    rw [if_neg hw] at hword
    rw [enter, if_neg hw, ← hblock]
    simp only [Matched.collect, h.info, hword]
    rcases c.openBlock b.word found.span with ⟨c', draft⟩
    cases draft <;> rfl

theorem unplaced_foldl_collect {blocks : List Fenced} {found : List Markdown.FencedBlock}
    (h : ∀ b ∈ blocks, b.Clear) (hfound : List.Forall₂ ReportedAs blocks found) (c : Collector) :
    (found.foldl Matched.collect c).unplaced = blocks.foldl (fun c b => b.enter c) c.unplaced := by
  induction hfound generalizing c with
  | nil => rfl
  | cons hreported _ ih =>
    rw [List.foldl_cons, ih fun b hb => h b (List.mem_cons_of_mem _ hb),
      hreported.unplaced_collect (h _ List.mem_cons_self), List.foldl_cons]

/-- From blocks that are written plainly, and found as matched fences in whatever pieces, both readings
make the same snippets and give the same warnings. -/
theorem matched_eq_plain {blocks : List Fenced} (h : ∀ b ∈ blocks, b.Clear)
    {found : List Markdown.FencedBlock} (hfound : List.Forall₂ ReportedAs blocks found) (fileId : Nat) :
    (found.foldl Matched.collect (.empty fileId)).document.snippets.map Snippet.unplaced =
      (Document.read .plain fileId (source blocks)).snippets.map Snippet.unplaced ∧
    (found.foldl Matched.collect (.empty fileId)).document.notices.map Notice.message =
      (Document.read .plain fileId (source blocks)).notices.map Notice.message := by
  have hgap : ∀ t ∈ [([] : Text)], ∀ tag, ¬ Plain.Tagged t tag := by
    intro t ht tag
    refine Plain.not_tagged_of_not_isFence (fun hf => ?_) tag
    rw [List.mem_singleton.mp ht] at hf
    exact absurd (List.prefix_nil.mp hf) (by simp)
  have hplain := Plain.unplaced_scan_of_fenced (fun b hb => (h b hb).readable) hgap
    (map_text_lines_source h) fileId
  have hboth : (found.foldl Matched.collect (.empty fileId)).unplaced =
      (Plain.scan fileId (source blocks)).unplaced :=
    (unplaced_foldl_collect h hfound _).trans hplain.symm
  refine ⟨congrArg Collector.snippets hboth, ?_⟩
  calc (found.foldl Matched.collect (.empty fileId)).notices.map Notice.message
      = (found.foldl Matched.collect (.empty fileId)).unplaced.notices.map Notice.message :=
        (Collector.map_message_unplaced _).symm
    _ = (Plain.scan fileId (source blocks)).unplaced.notices.map Notice.message := by rw [hboth]
    _ = (Plain.scan fileId (source blocks)).notices.map Notice.message :=
        Collector.map_message_unplaced _

/-- A long fence, an empty body, a language that is not known and a block without a word. -/
def mixed : List Fenced :=
  [⟨3, "sh", ["#%name: top", "echo", "", "#%inc: base"]⟩, ⟨5, "sh", ["#%lib: base", "  ``"]⟩,
    ⟨3, "python3", []⟩, ⟨3, "rust", ["#%name: none"]⟩, ⟨4, "", ["#%lib"]⟩]

theorem matched_eq_plain_mixed :
    (∀ b ∈ mixed, b.Clear) ∧ List.Forall₂ ReportedAs mixed (Markdown.fencedBlocks (source mixed)) ∧
    (Document.read .matched 0 (source mixed)).snippets.map Snippet.unplaced =
      (Document.read .plain 0 (source mixed)).snippets.map Snippet.unplaced ∧
    (Document.read .matched 0 (source mixed)).notices.map Notice.message =
      (Document.read .plain 0 (source mixed)).notices.map Notice.message := by
  have hclear : ∀ b ∈ mixed, b.Clear := by decide +kernel
  have hfound : List.Forall₂ ReportedAs mixed (Markdown.fencedBlocks (source mixed)) := by
    decide +kernel
  exact ⟨hclear, hfound, matched_eq_plain hclear hfound 0⟩

end Fenced
end Snippetry
