import Snippetry.Proofs.Fence.Scan
import Snippetry.Proofs.Text.Slices
import Snippetry.Text.Utf8

/-! # Where the snippets of a source with plain fences stand

The lines of a block follow each other in the source, and so do the blocks. What is reported of them is
therefore told apart by its spans, and every span cuts the source between characters. -/
namespace Snippetry

namespace Plain

def Block.lines (b : Block) : List Line := b.opener :: (b.body ++ b.closer.toList)

section Blocks

variable {lines : List Line} {blocks : List Block}

theorem Layout.exists_append (h : Layout lines blocks) {b : Block} (hb : b ∈ blocks) :
    ∃ before after, lines = before ++ b.lines ++ after := by
  induction h with
  | outside => cases hb
  | @unclosed before body =>
    obtain rfl := List.mem_singleton.mp hb
    exact ⟨before, [], by simp [Block.lines]⟩
  | @closed before body rest opener closer tag blocks _ _ _ _ _ ih =>
    rcases List.mem_cons.mp hb with rfl | hb
    · exact ⟨before, rest, by simp [Block.lines]⟩
    · obtain ⟨before', after, rfl⟩ := ih hb
      exact ⟨before ++ opener :: (body ++ closer :: before'), after, by simp⟩

theorem Layout.flatMap_lines_sublist (h : Layout lines blocks) :
    (blocks.flatMap Block.lines).Sublist lines := by
  induction h with
  | outside => exact List.nil_sublist _
  | unclosed => simp [Block.lines]
  | @closed before body rest opener closer tag blocks _ _ _ _ _ ih =>
    have hblock : (Block.lines ⟨opener, tag, body, some closer⟩).Sublist
        (before ++ opener :: (body ++ [closer])) := List.sublist_append_right _ _
    simpa using hblock.append ih

theorem Layout.isFence_closer (h : Layout lines blocks) {b : Block} (hb : b ∈ blocks) {closer : Line}
    (hc : b.closer = some closer) : IsFence closer.text := by
  induction h with
  | outside => cases hb
  | unclosed =>
    obtain rfl := List.mem_singleton.mp hb
    cases hc
  | closed _ _ _ closes _ ih =>
    rcases List.mem_cons.mp hb with rfl | hb
    · exact Option.some.inj hc ▸ closes
    · exact ih hb

theorem Layout.isFence_opener (h : Layout lines blocks) {b : Block} (hb : b ∈ blocks) :
    IsFence b.opener.text := by
  by_contra hn
  exact not_tagged_of_not_isFence hn b.tag (h.tagged_of_mem hb).1

end Blocks

/-! ## Cutting at bytes -/

def tickBytes (line : Text) : Nat := ((Utf8.encode line).takeWhile (· = 0x60)).length

/-- The leading run of word characters, cut off by its size, unless the cut goes through a character. -/
def cutWord? (t : Text) : Option (Option Text) :=
  let stop := Text.size (t.takeWhile isWord)
  if stop = 0 then some none else (Text.takeBytes? stop t).map some

/-- What a line says as a fence, with all cuts at bytes; `none` if one goes through a character. -/
def cutFence? (line : Text) : Option (Option (Option Text)) :=
  if tickBytes line < 3 then some none
  else (Text.dropBytes? (tickBytes line) line).bind fun rest => (cutWord? (Text.trimStart rest)).map some

section Cuts

theorem exists_encodeChar_eq_cons (c : Char) :
    ∃ b bytes, Utf8.encodeChar c = b :: bytes ∧ (b = 0x60 → c = '\x60') := by
  have hvalid : c.toNat < 0xD800 ∨ 0xDFFF < c.toNat ∧ c.toNat < 0x110000 := c.valid
  have hbyte (n : Nat) (h : n.toUInt8 = 0x60) : n % 256 = 0x60 := by
    simpa using congrArg UInt8.toNat h
  unfold Utf8.encodeChar
  dsimp only
  split
  · refine ⟨_, _, rfl, fun h => ?_⟩
    have hc : c.toNat = 0x60 := by
      have := hbyte _ h
      omega
    rw [← Char.ofNat_toNat c, hc]
  · split
    · refine ⟨_, _, rfl, fun h => ?_⟩
      have := hbyte _ h
      omega
    · split <;>
      · refine ⟨_, _, rfl, fun h => ?_⟩
        have := hbyte _ h
        omega

/-- Whatever stands in a line, the bytes that are ticks are as many as the ticks. -/
theorem tickBytes_eq (line : Text) : tickBytes line = (line.takeWhile isTick).length := by
  unfold tickBytes
  induction line with
  | nil => rfl
  | cons c line ih =>
    by_cases hc : c = '\x60'
    · subst hc
      have hbyte : Utf8.encodeChar '\x60' = [0x60] := by decide
      simpa [Utf8.encode, hbyte, isTick] using ih
    · obtain ⟨b, bytes, hencode, hb⟩ := exists_encodeChar_eq_cons c
      have hne : b ≠ 0x60 := fun h => hc (hb h)
      simp [Utf8.encode, hencode, hne, isTick, hc]

theorem size_takeWhile_isTick (line : Text) :
    Text.size (line.takeWhile isTick) = (line.takeWhile isTick).length := by
  induction line with
  | nil => rfl
  | cons c line ih =>
    by_cases hc : c = '\x60'
    · subst hc
      have hsize : '\x60'.utf8Size = 1 := rfl
      simp [isTick, hsize, ih, Nat.add_comm]
    · simp [isTick, hc]

theorem dropBytes?_tickBytes (line : Text) :
    Text.dropBytes? (tickBytes line) line = some (line.drop (line.takeWhile isTick).length) := by
  have h := Text.dropBytes?_append (line.takeWhile isTick) (line.dropWhile isTick)
  rwa [List.takeWhile_append_dropWhile, size_takeWhile_isTick, ← tickBytes_eq,
    ← drop_length_takeWhile] at h

theorem cutWord?_eq (t : Text) : cutWord? t = some (Text.word? t) := by
  have htake := Text.takeBytes?_append (t.takeWhile isWord) (t.dropWhile isWord)
  rw [List.takeWhile_append_dropWhile] at htake
  unfold cutWord? Text.word?
  cases hw : t.takeWhile isWord with
  | nil => simp
  | cons c w =>
    rw [hw] at htake
    have hpos : Text.size (c :: w) ≠ 0 := by
      have := c.utf8Size_pos
      rw [Text.size_cons]
      omega
    dsimp only
    rw [if_neg hpos, htake, Option.map_some, if_neg (List.cons_ne_nil c w)]

/-- No cut for the tag of a line goes through a character. -/
theorem cutFence?_eq (line : Text) : cutFence? line = some (fence? line) := by
  unfold cutFence? fence?
  rw [dropBytes?_tickBytes, tickBytes_eq]
  dsimp only
  split
  · rfl
  · rw [Option.bind_some, cutWord?_eq, Option.map_some]

end Cuts

end Plain

namespace Document

open Plain

/-- What is reported of a source lies in the source: bodies line by line inside their snippets, snippets
one after the other from fence to fence, and warnings. -/
structure Located (source : Text) (d : Document) : Prop where
  /-- A line of a body is what its span covers. -/
  line : ∀ s ∈ d.snippets, ∀ l ∈ s.rawLines,
    Text.slice? source l.span = some l.text ∧ l.span.start ≤ l.span.stop ∧ '\n' ∉ l.text
  lines_apart : ∀ s ∈ d.snippets, s.rawLines.Pairwise fun a b => a.span.stop < b.span.start
  line_inside : ∀ s ∈ d.snippets, ∀ l ∈ s.rawLines,
    s.span.start < l.span.start ∧ l.span.stop < s.span.stop
  snippet : ∀ s ∈ d.snippets, ∃ first last, Text.slice? source s.span = some (first ++ '\n' :: last) ∧
    s.span.start ≤ s.span.stop ∧ '\n' ∉ last ∧ IsFence first ∧ IsFence last
  snippets_apart : d.snippets.Pairwise fun a b => a.span.stop < b.span.start
  notice : ∀ n ∈ d.notices, (∃ t, Text.slice? source n.span = some t) ∧
    n.span.start ≤ n.span.stop ∧ n.span.stop ≤ source.size

section Located

variable {fileId : Nat} {source : Text} {blocks : List Block}

/-- The lines of a snippet in the source: those of its body between two fences. -/
theorem exists_lines_of_mem_snippets (h : Layout (Text.lines source) blocks) {s : Snippet}
    (hs : s ∈ (scan fileId source).snippets) : ∃ before opener body closer after,
      Text.lines source = before ++ opener :: (body ++ closer :: after) ∧
      IsFence opener.text ∧ IsFence closer.text ∧ s.rawLines = Draft.bodyLines body ∧
      s.span = ⟨opener.start, closer.span.stop⟩ := by
  obtain ⟨b, hb, closer, hcloser, hraw, hspan⟩ := exists_block_of_mem_snippets h hs
  obtain ⟨before, after, hlines⟩ := h.exists_append hb
  refine ⟨before, b.opener, b.body, closer, after, ?_, h.isFence_opener hb,
    h.isFence_closer hb hcloser, hraw, hspan⟩
  simpa [Block.lines, hcloser] using hlines

theorem exists_of_mem_bodyLines {body : List Line} {l : SourceLine} (hl : l ∈ Draft.bodyLines body) :
    ∃ line ∈ body, l = ⟨line.text, line.span⟩ := by
  obtain ⟨line, hline, rfl⟩ := List.mem_map.mp hl
  exact ⟨line, (List.mem_filter.mp hline).1, rfl⟩

theorem bodyLines_apart {body : List Line}
    (h : body.Pairwise fun a b => a.span.stop < b.span.start) :
    (Draft.bodyLines body).Pairwise fun a b => a.span.stop < b.span.start :=
  List.pairwise_map.mpr (h.filter _)

theorem start_le_stop (l : Line) : l.span.start ≤ l.span.stop := Nat.le_add_right _ _

/-- What stands between two lines lies inside the span of both. -/
theorem inside_of_mem_body {before body after : List Line} {opener closer line : Line}
    (h : Text.lines source = before ++ opener :: (body ++ closer :: after)) (hline : line ∈ body) :
    opener.start < line.span.start ∧ line.span.stop < closer.span.stop := by
  have hapart := Text.lines_apart source
  rw [h, List.pairwise_append, List.pairwise_cons, List.pairwise_append] at hapart
  obtain ⟨-, ⟨hopener, -, -, hcloser⟩, -⟩ := hapart
  have hfirst := hopener line (by simp [hline])
  have hlast := hcloser line hline closer List.mem_cons_self
  exact ⟨(start_le_stop opener).trans_lt hfirst, hlast.trans_le (start_le_stop closer)⟩

theorem snippets_apart_of_layout (h : Layout (Text.lines source) blocks) :
    (scan fileId source).snippets.Pairwise fun a b => a.span.stop < b.span.start := by
  have hapart := (Text.lines_apart source).sublist h.flatMap_lines_sublist
  have hblocks := (List.pairwise_flatMap.mp hapart).2
  have hextents := foldl_collect_extents source.size blocks (.empty fileId)
  rw [← scan_eq_foldl_collect fileId h, Collector.empty, List.map_nil, List.nil_append] at hextents
  have hspans : ((scan fileId source).snippets.map fun s => (s.language, s.rawLines, s.span)).Pairwise
      fun a b => a.2.2.stop < b.2.2.start := by
    rw [hextents]
    refine List.pairwise_filterMap.mpr (hblocks.imp ?_)
    rintro b b' hlines x hx x' hx'
    simp only [Block.extent?, Option.bind_eq_bind, Option.bind_eq_some_iff, Option.pure_def,
      Option.some.injEq] at hx hx'
    obtain ⟨-, -, closer, hcloser, rfl⟩ := hx
    obtain ⟨-, -, -, -, rfl⟩ := hx'
    exact hlines closer (by simp [Block.lines, hcloser]) b'.opener (by simp [Block.lines])
  exact List.pairwise_map.mp hspans

/-- A notice is about a block of an unknown language, or about one that is not closed. -/
theorem exists_block_of_mem_notices (h : Layout (Text.lines source) blocks) {n : Notice}
    (hn : n ∈ (scan fileId source).notices) : ∃ b ∈ blocks, b.opener ∈ Text.lines source ∧
      (Language.ofTag? b.tag = none ∧ n = ⟨.unknownLanguage b.tag, b.opener.span, fileId⟩ ∨
        b.closer = none ∧ n = ⟨.unterminatedFence, ⟨b.opener.start, source.size⟩, fileId⟩) := by
  have hnotices := h.foldl_collect_notices source.size (.empty fileId)
  rw [← scan_eq_foldl_collect fileId h] at hnotices
  rw [hnotices, Collector.empty, List.nil_append] at hn
  have hopener {b : Block} (hb : b ∈ blocks) : b.opener ∈ Text.lines source := by
    obtain ⟨before, after, hlines⟩ := h.exists_append hb
    simp [hlines, Block.lines]
  rcases List.mem_append.mp hn with hn | hn
  · obtain ⟨b, hb, hunknown⟩ := List.mem_filterMap.mp hn
    unfold Block.unknown? at hunknown
    split at hunknown
    · next hlanguage =>
      cases hunknown
      exact ⟨b, hb, hopener hb, .inl ⟨hlanguage, rfl⟩⟩
    · cases hunknown
  · obtain ⟨b, hb, hunterminated⟩ := List.mem_filterMap.mp hn
    unfold Block.unterminated? at hunterminated
    split at hunterminated
    · next hcloser =>
      cases hunterminated
      exact ⟨b, hb, hopener hb, .inr ⟨hcloser, rfl⟩⟩
    · cases hunterminated

theorem slice?_of_mem_notices (h : Layout (Text.lines source) blocks) {n : Notice}
    (hn : n ∈ (scan fileId source).notices) : ∃ t, Text.slice? source n.span = some t := by
  obtain ⟨b, -, hopener, ⟨-, rfl⟩ | ⟨-, rfl⟩⟩ := exists_block_of_mem_notices h hn
  · exact ⟨_, Text.slice?_of_mem_lines hopener⟩
  · exact Text.exists_slice_to_end hopener

end Located

/-- Every span that a source with plain fences is read with lies in the source, in its order and between
its characters. So do the lines that are scanned, and the cuts for their tags. -/
theorem located_read (fileId : Nat) (source : Text) :
    (read .plain fileId source).Located source ∧ ∀ line ∈ Text.lines source,
      Text.slice? source line.span = some line.text ∧ line.span.stop ≤ source.size ∧
      cutFence? line.text = some (fence? line.text) := by
  obtain ⟨blocks, hlayout⟩ := exists_layout (Text.lines source)
  have hlines {s : Snippet} (hs : s ∈ (read .plain fileId source).snippets) :=
    exists_lines_of_mem_snippets hlayout hs
  refine ⟨⟨?_, ?_, ?_, ?_, snippets_apart_of_layout hlayout, ?_⟩, ?_⟩
  · intro s hs l hl
    obtain ⟨before, opener, body, closer, after, hsource, -, -, hraw, -⟩ := hlines hs
    obtain ⟨line, hline, rfl⟩ := exists_of_mem_bodyLines (hraw ▸ hl)
    have hmem : line ∈ Text.lines source := by simp [hsource, hline]
    exact ⟨Text.slice?_of_mem_lines hmem, start_le_stop line, Text.newline_notMem_of_mem_lines hmem⟩
  · intro s hs
    obtain ⟨before, opener, body, closer, after, hsource, -, -, hraw, -⟩ := hlines hs
    have hbody : body.Sublist (Text.lines source) := by
      rw [hsource]
      exact ((List.sublist_append_left body _).cons opener).trans (List.sublist_append_right before _)
    rw [hraw]
    exact bodyLines_apart ((Text.lines_apart source).sublist hbody)
  · intro s hs l hl
    obtain ⟨before, opener, body, closer, after, hsource, -, -, hraw, hspan⟩ := hlines hs
    obtain ⟨line, hline, rfl⟩ := exists_of_mem_bodyLines (hraw ▸ hl)
    rw [hspan]
    exact inside_of_mem_body hsource hline
  · intro s hs
    obtain ⟨before, opener, body, closer, after, hsource, hopens, hcloses, -, hspan⟩ := hlines hs
    obtain ⟨between, hslice⟩ := Text.exists_slice_of_lines hsource
    have hmem : closer ∈ Text.lines source := by simp [hsource]
    rw [hspan]
    exact ⟨opener.text ++ between, closer.text, hslice, (Text.le_of_slice? hslice).1,
      Text.newline_notMem_of_mem_lines hmem, hopens.trans (List.prefix_append _ _), hcloses⟩
  · intro n hn
    obtain ⟨t, hslice⟩ := slice?_of_mem_notices hlayout hn
    exact ⟨⟨t, hslice⟩, Text.le_of_slice? hslice⟩
  · intro line hl
    have hslice := Text.slice?_of_mem_lines hl
    exact ⟨hslice, (Text.le_of_slice? hslice).2, cutFence?_eq line.text⟩

end Document
end Snippetry
