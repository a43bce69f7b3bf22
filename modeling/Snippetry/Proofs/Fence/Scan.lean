import Mathlib.Data.List.Infix
import Snippetry.Proofs.Fence.Layout
import Snippetry.Proofs.Text.Lines
import Snippetry.Proofs.Text.Occurrences
import Snippetry.Reading

/-! # A scan for plain fences finds the blocks of a source

The scan goes line by line and knows only whether it is inside a block. What it collects is what the
blocks of the layout give one after the other. -/
namespace Snippetry

/-- A line that says something about its snippet and is no part of the body. -/
def IsMetadata (line : Text) : Prop := ("#%name:" : Text) <+: line ∨ ("#%lib" : Text) <+: line

instance (line : Text) : Decidable (IsMetadata line) :=
  inferInstanceAs (Decidable (("#%name:" : Text) <+: line ∨ ("#%lib" : Text) <+: line))

theorem Directive.ofLine?_eq_none_iff (line : Text) : ofLine? line = none ↔ ¬ IsMetadata line := by
  rw [IsMetadata, not_or, ← isPrefixOf?_eq_none_iff, ← isPrefixOf?_eq_none_iff]
  unfold ofLine?
  generalize ("#%name:" : Text).isPrefixOf? line = named
  generalize ("#%lib" : Text).isPrefixOf? line = library
  split
  · simp
  · split <;> simp

namespace Draft

def pushLines (d : Draft) (lines : List Line) : Draft :=
  lines.foldl (fun d l => d.push ⟨l.text, l.span⟩) d

def bodyLines (lines : List Line) : List SourceLine :=
  (lines.filter fun l => ¬ IsMetadata l.text).map fun l => ⟨l.text, l.span⟩

theorem bodyLines_cons (l : Line) (lines : List Line) :
    bodyLines (l :: lines) = bodyLines [l] ++ bodyLines lines := by
  by_cases h : IsMetadata l.text <;> simp [bodyLines, h]

theorem push_eq (d : Draft) (l : Line) : (d.push ⟨l.text, l.span⟩).language = d.language ∧
    (d.push ⟨l.text, l.span⟩).start = d.start ∧
    (d.push ⟨l.text, l.span⟩).lines = d.lines ++ bodyLines [l] := by
  have hnone := Directive.ofLine?_eq_none_iff l.text
  unfold push bodyLines
  split <;> simp_all

theorem pushLines_eq (d : Draft) (lines : List Line) : (d.pushLines lines).language = d.language ∧
    (d.pushLines lines).start = d.start ∧ (d.pushLines lines).lines = d.lines ++ bodyLines lines := by
  induction lines generalizing d with
  | nil => simp [pushLines, bodyLines]
  | cons l lines ih =>
    obtain ⟨hlanguage, hstart, hlines⟩ := push_eq d l
    obtain ⟨ihlanguage, ihstart, ihlines⟩ := ih (d.push ⟨l.text, l.span⟩)
    refine ⟨ihlanguage.trans hlanguage, ihstart.trans hstart, ihlines.trans ?_⟩
    rw [hlines, List.append_assoc, ← bodyLines_cons]

end Draft

namespace Plain

namespace Block

def collect (sourceSize : Nat) (c : Collector) (b : Block) : Collector :=
  let opened := c.openBlock b.tag b.opener.span
  match opened.2, b.closer with
  | none, _ => opened.1
  | some draft, some closer => opened.1.close (draft.pushLines b.body) closer.span.stop
  | some draft, none => opened.1.unterminated (draft.pushLines b.body) sourceSize

/-- The language of the snippet that a block makes, its body and its span; only a block that is closed
and whose language is known makes one. -/
def extent? (b : Block) : Option (Language × List SourceLine × Span) := do
  let language ← Language.ofTag? b.tag
  let closer ← b.closer
  return (language, Draft.bodyLines b.body, ⟨b.opener.start, closer.span.stop⟩)

def unknown? (fileId : Nat) (b : Block) : Option Notice :=
  match Language.ofTag? b.tag with
  | none => some ⟨.unknownLanguage b.tag, b.opener.span, fileId⟩
  | some _ => none

/-- The warning about a block that would make a snippet if it were closed. -/
def unterminated? (fileId sourceSize : Nat) (b : Block) : Option Notice :=
  match Language.ofTag? b.tag, b.closer with
  | some _, none => some ⟨.unterminatedFence, ⟨b.opener.start, sourceSize⟩, fileId⟩
  | _, _ => none

end Block

/-! ## The scan, block by block -/

section Scanning

variable {c : Collector}

theorem step_plain {l : Line} (h : ∀ tag, ¬ Tagged l.text tag) :
    Scan.step ⟨.outside, c⟩ l = ⟨.outside, c⟩ := by
  unfold Scan.step
  split
  · next tag _ he => exact absurd (fence?_eq_tag_iff.mp he) (h tag)
  all_goals simp_all

theorem foldl_step_plain {lines : List Line} (h : ∀ l ∈ lines, ∀ tag, ¬ Tagged l.text tag) :
    lines.foldl Scan.step ⟨.outside, c⟩ = ⟨.outside, c⟩ := by
  induction lines with
  | nil => rfl
  | cons l lines ih =>
    rw [List.foldl_cons, step_plain (h l List.mem_cons_self)]
    exact ih fun l hl => h l (List.mem_cons_of_mem _ hl)

theorem step_opener {l : Line} {tag : Text} (h : Tagged l.text tag) :
    Scan.step ⟨.outside, c⟩ l = ⟨.inside (c.openBlock tag l.span).2, (c.openBlock tag l.span).1⟩ := by
  simp [Scan.step, fence?_eq_tag_iff.mpr h]

theorem step_inner {l : Line} (h : ¬ IsFence l.text) (draft : Option Draft) :
    Scan.step ⟨.inside draft, c⟩ l = ⟨.inside (draft.map fun d => d.push ⟨l.text, l.span⟩), c⟩ := by
  have hfence : fence? l.text = none := by
    rwa [← Option.not_isSome_iff_eq_none, fence?_isSome_iff]
  cases draft <;> simp [Scan.step, hfence]

theorem foldl_step_inner {lines : List Line} (h : ∀ l ∈ lines, ¬ IsFence l.text)
    (draft : Option Draft) : lines.foldl Scan.step ⟨.inside draft, c⟩ =
      ⟨.inside (draft.map fun d => d.pushLines lines), c⟩ := by
  induction lines generalizing draft with
  | nil => cases draft <;> rfl
  | cons l lines ih =>
    rw [List.foldl_cons, step_inner (h l List.mem_cons_self),
      ih fun l hl => h l (List.mem_cons_of_mem _ hl)]
    cases draft <;> rfl

theorem step_closer {l : Line} (h : IsFence l.text) (draft : Option Draft) :
    Scan.step ⟨.inside draft, c⟩ l =
      ⟨.outside, draft.elim c fun d => c.close d l.span.stop⟩ := by
  obtain ⟨tag, hfence⟩ := Option.isSome_iff_exists.mp (fence?_isSome_iff.mpr h)
  cases draft <;> simp [Scan.step, hfence]

/-- Line by line or block by block, the collector gets the same. -/
theorem finish_foldl_step {lines : List Line} {blocks : List Block} (h : Layout lines blocks)
    (sourceSize : Nat) (c : Collector) :
    (lines.foldl Scan.step ⟨.outside, c⟩).finish sourceSize =
      blocks.foldl (Block.collect sourceSize) c := by
  induction h generalizing c with
  | outside plain =>
    rw [foldl_step_plain plain]
    rfl
  | unclosed plain opens inner =>
    rw [List.foldl_append, foldl_step_plain plain, List.foldl_cons, step_opener opens,
      foldl_step_inner inner]
    simp only [List.foldl_cons, List.foldl_nil, Block.collect]
    cases (c.openBlock _ _).2 <;> rfl
  | @closed before body rest opener closer tag blocks plain opens inner closes after ih =>
    rw [List.foldl_append, foldl_step_plain plain, List.foldl_cons, step_opener opens,
      List.foldl_append, foldl_step_inner inner, List.foldl_cons, step_closer closes, ih,
      List.foldl_cons]
    congr 1
    simp only [Block.collect]
    cases (c.openBlock tag opener.span).2 <;> rfl

end Scanning

/-! ## What the collector is left with -/

section Collected

variable (sourceSize : Nat) {c : Collector}

/-- What a block says of the snippets and the warnings of a document. -/
theorem Block.collect_eq (c : Collector) (b : Block) : (b.collect sourceSize c).fileId = c.fileId ∧
    (b.collect sourceSize c).snippets.map (fun s => (s.language, s.rawLines, s.span)) =
      c.snippets.map (fun s => (s.language, s.rawLines, s.span)) ++ b.extent?.toList ∧
    (b.collect sourceSize c).notices = c.notices ++ (b.unknown? c.fileId).toList ++
      (b.unterminated? c.fileId sourceSize).toList := by
  unfold collect Collector.openBlock extent? unknown? unterminated?
  cases hlanguage : Language.ofTag? b.tag with
  | none => simp
  | some language =>
    cases hcloser : b.closer with
    | none => simp [Collector.unterminated, Draft.pushLines_eq, Draft.ofLanguage, Line.span]
    | some closer =>
      simp only [Collector.close]
      split <;> simp [Draft.pushLines_eq, Draft.ofLanguage, Line.span]

theorem foldl_collect_extents (blocks : List Block) (c : Collector) :
    (blocks.foldl (Block.collect sourceSize) c).snippets.map
        (fun s => (s.language, s.rawLines, s.span)) =
      c.snippets.map (fun s => (s.language, s.rawLines, s.span)) ++ blocks.filterMap Block.extent? := by
  induction blocks generalizing c with
  | nil => simp
  | cons b blocks ih =>
    obtain ⟨-, hsnippets, -⟩ := b.collect_eq sourceSize c
    rw [List.foldl_cons, ih, hsnippets, List.append_assoc]
    cases hb : b.extent? <;> simp [hb]

/-- Only the last block can be left open, so its warning comes after all others. -/
theorem Layout.foldl_collect_notices {lines : List Line} {blocks : List Block}
    (h : Layout lines blocks) (c : Collector) :
    (blocks.foldl (Block.collect sourceSize) c).notices = c.notices ++
      (blocks.filterMap (Block.unknown? c.fileId) ++
        blocks.filterMap (Block.unterminated? c.fileId sourceSize)) := by
  induction h generalizing c with
  | outside => simp
  | @unclosed before body opener tag =>
    obtain ⟨-, -, hnotices⟩ :=
      Block.collect_eq sourceSize c ⟨opener, tag, body, none⟩
    rw [List.foldl_cons, List.foldl_nil, hnotices, List.append_assoc, List.filterMap_cons,
      List.filterMap_cons]
    cases Block.unknown? c.fileId ⟨opener, tag, body, none⟩ <;>
      cases Block.unterminated? c.fileId sourceSize ⟨opener, tag, body, none⟩ <;> rfl
  | @closed before body rest opener closer tag blocks _ _ _ _ _ ih =>
    obtain ⟨hfile, -, hnotices⟩ :=
      Block.collect_eq sourceSize c ⟨opener, tag, body, some closer⟩
    have hclosed : Block.unterminated? c.fileId sourceSize ⟨opener, tag, body, some closer⟩ = none := by
      simp [Block.unterminated?]
    rw [List.foldl_cons, ih, hnotices, hfile, List.filterMap_cons, List.filterMap_cons, hclosed]
    cases Block.unknown? c.fileId ⟨opener, tag, body, some closer⟩ <;> simp

theorem scan_eq_foldl_collect (fileId : Nat) {source : Text} {blocks : List Block}
    (h : Layout (Text.lines source) blocks) :
    scan fileId source = blocks.foldl (Block.collect source.size) (.empty fileId) :=
  finish_foldl_step h source.size (.empty fileId)

/-- A snippet comes from a block that is closed. -/
theorem exists_block_of_mem_snippets {fileId : Nat} {source : Text} {blocks : List Block}
    (h : Layout (Text.lines source) blocks) {s : Snippet} (hs : s ∈ (scan fileId source).snippets) :
    ∃ b ∈ blocks, ∃ closer, b.closer = some closer ∧ s.rawLines = Draft.bodyLines b.body ∧
      s.span = ⟨b.opener.start, closer.span.stop⟩ := by
  have hextents := foldl_collect_extents source.size blocks (.empty fileId)
  rw [← scan_eq_foldl_collect fileId h] at hextents
  have hmem := List.mem_map_of_mem (f := fun s : Snippet => (s.language, s.rawLines, s.span)) hs
  rw [hextents, Collector.empty, List.map_nil, List.nil_append] at hmem
  obtain ⟨b, hb, hextent⟩ := List.mem_filterMap.mp hmem
  simp only [Block.extent?, Option.bind_eq_bind, Option.bind_eq_some_iff, Option.pure_def,
    Option.some.injEq, Prod.mk.injEq] at hextent
  obtain ⟨language, -, closer, hcloser, -, hraw, hspan⟩ := hextent
  exact ⟨b, hb, closer, hcloser, hraw.symm, hspan.symm⟩

/-- What a snippet has in its body are lines of the source. -/
theorem mem_lines_of_mem_rawLines {fileId : Nat} {source : Text} {s : Snippet} {line : SourceLine}
    (hs : s ∈ (scan fileId source).snippets) (hl : line ∈ s.rawLines) :
    ∃ l ∈ Text.lines source, line = ⟨l.text, l.span⟩ := by
  obtain ⟨blocks, hlayout⟩ := exists_layout (Text.lines source)
  obtain ⟨b, hb, closer, -, hraw, -⟩ := exists_block_of_mem_snippets hlayout hs
  rw [hraw] at hl
  obtain ⟨l, hbody, rfl⟩ := List.mem_map.mp hl
  exact ⟨l, hlayout.mem_body hb (List.mem_filter.mp hbody).1, rfl⟩

end Collected

end Plain

namespace Document

open Plain

/-- The snippets of a source with plain fences are those of its closed blocks of a known language, in
order, and there is a warning for every block of an unknown one, and last one for a block that is left
open. -/
theorem read_plain_eq (fileId : Nat) (source : Text) :
    ∃ lines blocks, (∀ other, Text.Lined 0 source other ↔ other = lines) ∧
      (∀ other, Layout lines other ↔ other = blocks) ∧
      (read .plain fileId source).snippets.map (fun s => (s.language, s.rawLines, s.span)) =
        blocks.filterMap Block.extent? ∧
      (read .plain fileId source).notices = blocks.filterMap (Block.unknown? fileId) ++
        blocks.filterMap (Block.unterminated? fileId source.size) := by
  obtain ⟨blocks, hlayout⟩ := exists_layout (Text.lines source)
  have hscan := scan_eq_foldl_collect fileId hlayout
  refine ⟨Text.lines source, blocks, fun _ => Text.lined_iff, fun other => ?_, ?_, ?_⟩
  · exact ⟨fun h => hlayout.unique h, fun h => h ▸ hlayout⟩
  · change (scan fileId source).snippets.map _ = _
    rw [hscan, foldl_collect_extents]
    rfl
  · change (scan fileId source).notices = _
    rw [hscan, hlayout.foldl_collect_notices]
    rfl

end Document
end Snippetry
