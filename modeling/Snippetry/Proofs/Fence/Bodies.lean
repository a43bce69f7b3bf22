import Snippetry.Proofs.Fence.Printing
import Snippetry.Proofs.Fence.Reassembly
import Snippetry.Proofs.Selection

/-! # What the lines of a body make of a snippet

Some lines of a body say something about the snippet, and the others are left as its lines. Of the
names the last one counts, a blank one included; of the aliases the last one that is not blank; and a
library is one for good. So it does not matter where in the body these lines stand. -/
namespace Snippetry

def valuesOf (key : Text) (lines : List SourceLine) : List Text :=
  lines.filterMap fun l => key.isPrefixOf? l.text

section Values

variable {key value : Text} {lines : List SourceLine} {l : SourceLine}

theorem valuesOf_concat_some (h : key.isPrefixOf? l.text = some value) :
    valuesOf key (lines ++ [l]) = valuesOf key lines ++ [value] := by
  simp [valuesOf, h]

theorem valuesOf_concat_none (h : key.isPrefixOf? l.text = none) :
    valuesOf key (lines ++ [l]) = valuesOf key lines := by
  simp [valuesOf, h]

end Values

theorem isMetadata_of_alias (t : Text) (h : ("#%lib:" : Text) <+: t) : IsMetadata t :=
  .inr ((List.prefix_append ("#%lib" : Text) [':']).trans h)

namespace Directive

/-- A line names its snippet, names a library, makes a library without a name, or is of the body. -/
theorem line_cases (t : Text) : (∃ value, t = "#%name:" ++ value) ∨ (∃ value, t = "#%lib:" ++ value) ∨
    (∃ rest, t = "#%lib" ++ rest ∧ ¬ ("#%lib:" : Text) <+: t) ∨ ¬ IsMetadata t := by
  by_cases h : IsMetadata t
  · rcases h with ⟨value, rfl⟩ | ⟨rest, rfl⟩
    · exact .inl ⟨value, rfl⟩
    · by_cases hcolon : ("#%lib:" : Text) <+: "#%lib" ++ rest
      · obtain ⟨value, hvalue⟩ := hcolon
        exact .inr (.inl ⟨value, hvalue.symm⟩)
      · exact .inr (.inr (.inl ⟨rest, rfl, hcolon⟩))
  · exact .inr (.inr (.inr h))

theorem ofLine?_library {rest : Text} (h : ¬ ("#%lib:" : Text) <+: "#%lib" ++ rest) :
    ofLine? ("#%lib" ++ rest) = some (.library none) := by
  have hname : ("#%name:" : Text).isPrefixOf? ("#%lib" ++ rest) = none := rfl
  have hlibrary : ("#%lib" : Text).isPrefixOf? ("#%lib" ++ rest) = some rest := rfl
  rw [ofLine?, hname, hlibrary]
  dsimp only
  split
  · next value hvalue =>
    obtain rfl := Option.some.inj hvalue
    exact absurd ⟨value, rfl⟩ h
  · rfl
  · next hnone => cases hnone

end Directive

namespace Draft

/-- What the lines of a body say of their snippet, and the lines that are left. -/
structure Combines (lines : List SourceLine) (d : Draft) : Prop where
  name : d.name = (valuesOf "#%name:" lines).getLast?.bind Text.nonBlank?
  isLibrary : d.isLibrary = true ↔ ∃ l ∈ lines, ("#%lib" : Text) <+: l.text
  aliasName : d.aliasName = ((valuesOf "#%lib:" lines).filterMap Text.nonBlank?).getLast?
  lines : d.lines = lines.filter fun l => ¬ IsMetadata l.text

def ofLines (language : Language) (start : Nat) (lines : List SourceLine) : Draft :=
  lines.foldl push (ofLanguage language start)

variable {lines : List SourceLine} {d : Draft}

theorem exists_concat_iff {p : SourceLine → Prop} {l : SourceLine} :
    (∃ m ∈ lines ++ [l], p m) ↔ (∃ m ∈ lines, p m) ∨ p l := by
  simp only [List.mem_append, List.mem_singleton, or_and_right, exists_or, exists_eq_left]

theorem filter_concat_metadata {l : SourceLine} (h : IsMetadata l.text) :
    (lines ++ [l]).filter (fun l => ¬ IsMetadata l.text) = lines.filter fun l => ¬ IsMetadata l.text := by
  rw [List.filter_append, List.filter_cons_of_neg (by simpa using h), List.filter_nil, List.append_nil]

theorem Combines.push_name (h : d.Combines lines) (value : Text) (span : Span) :
    (d.push ⟨"#%name:" ++ value, span⟩).Combines (lines ++ [⟨"#%name:" ++ value, span⟩]) := by
  have hpush : d.push ⟨"#%name:" ++ value, span⟩ = { d with name := Text.nonBlank? value } := rfl
  have hname : ("#%name:" : Text).isPrefixOf? ("#%name:" ++ value) = some value := rfl
  have halias : ("#%lib:" : Text).isPrefixOf? ("#%name:" ++ value) = none := rfl
  have hlibrary : ¬ ("#%lib" : Text) <+: "#%name:" ++ value := isPrefixOf?_eq_none_iff.mp rfl
  rw [hpush]
  constructor
  · rw [valuesOf_concat_some hname, List.getLast?_concat, Option.bind_some]
  · rw [exists_concat_iff, or_iff_left hlibrary]
    exact h.isLibrary
  · rw [valuesOf_concat_none halias]
    exact h.aliasName
  · rw [filter_concat_metadata (.inl (List.prefix_append _ _))]
    exact h.lines

theorem Combines.push_alias (h : d.Combines lines) (value : Text) (span : Span) :
    (d.push ⟨"#%lib:" ++ value, span⟩).Combines (lines ++ [⟨"#%lib:" ++ value, span⟩]) := by
  have hpush : d.push ⟨"#%lib:" ++ value, span⟩ =
      { d with isLibrary := true, aliasName := Text.nonBlank? value <|> d.aliasName } := rfl
  have hname : ("#%name:" : Text).isPrefixOf? ("#%lib:" ++ value) = none := rfl
  have halias : ("#%lib:" : Text).isPrefixOf? ("#%lib:" ++ value) = some value := rfl
  have hlibrary : ("#%lib" : Text) <+: "#%lib:" ++ value := ⟨':' :: value, rfl⟩
  rw [hpush]
  constructor
  · rw [valuesOf_concat_none hname]
    exact h.name
  · rw [exists_concat_iff]
    exact iff_of_true rfl (.inr hlibrary)
  · rw [valuesOf_concat_some halias, List.filterMap_append]
    cases hvalue : Text.nonBlank? value with
    | none => simpa [hvalue] using h.aliasName
    | some aliasName => simp [hvalue]
  · rw [filter_concat_metadata (.inr hlibrary)]
    exact h.lines

theorem Combines.push_library (h : d.Combines lines) {rest : Text} (span : Span)
    (hcolon : ¬ ("#%lib:" : Text) <+: "#%lib" ++ rest) :
    (d.push ⟨"#%lib" ++ rest, span⟩).Combines (lines ++ [⟨"#%lib" ++ rest, span⟩]) := by
  have hpush : d.push ⟨"#%lib" ++ rest, span⟩ = { d with isLibrary := true } := by
    simp only [Draft.push, Directive.ofLine?_library hcolon]
    rfl
  have hname : ("#%name:" : Text).isPrefixOf? ("#%lib" ++ rest) = none := rfl
  have halias : ("#%lib:" : Text).isPrefixOf? ("#%lib" ++ rest) = none :=
    isPrefixOf?_eq_none_iff.mpr hcolon
  have hlibrary : ("#%lib" : Text) <+: "#%lib" ++ rest := List.prefix_append _ _
  rw [hpush]
  constructor
  · rw [valuesOf_concat_none hname]
    exact h.name
  · rw [exists_concat_iff]
    exact iff_of_true rfl (.inr hlibrary)
  · rw [valuesOf_concat_none halias]
    exact h.aliasName
  · rw [filter_concat_metadata (.inr hlibrary)]
    exact h.lines

theorem Combines.push_body (h : d.Combines lines) {l : SourceLine} (hbody : ¬ IsMetadata l.text) :
    (d.push l).Combines (lines ++ [l]) := by
  have hpush : d.push l = { d with lines := d.lines ++ [l] } := by
    simp only [Draft.push, (Directive.ofLine?_eq_none_iff l.text).mpr hbody]
  obtain ⟨hname, hlibrary⟩ := not_or.mp hbody
  have halias : ¬ ("#%lib:" : Text) <+: l.text := fun hprefix => hbody (isMetadata_of_alias _ hprefix)
  rw [hpush]
  constructor
  · rw [valuesOf_concat_none (isPrefixOf?_eq_none_iff.mpr hname)]
    exact h.name
  · rw [exists_concat_iff, or_iff_left hlibrary]
    exact h.isLibrary
  · rw [valuesOf_concat_none (isPrefixOf?_eq_none_iff.mpr halias)]
    exact h.aliasName
  · rw [List.filter_append, List.filter_cons_of_pos (by simpa using hbody), List.filter_nil, ← h.lines]

/-- One more line, whatever it says. -/
theorem Combines.push (h : d.Combines lines) (l : SourceLine) : (d.push l).Combines (lines ++ [l]) := by
  obtain ⟨text, span⟩ := l
  rcases Directive.line_cases text with ⟨value, rfl⟩ | ⟨value, rfl⟩ | ⟨rest, rfl, hcolon⟩ | hbody
  · exact h.push_name value span
  · exact h.push_alias value span
  · exact h.push_library span hcolon
  · exact h.push_body hbody

theorem combines_ofLines (language : Language) (start : Nat) (lines : List SourceLine) :
    (ofLines language start lines).Combines lines := by
  induction lines using List.reverseRecOn with
  | nil =>
    constructor
    · rfl
    · simp [ofLines, ofLanguage]
    · rfl
    · rfl
  | append_singleton lines l ih =>
    rw [ofLines, List.foldl_concat]
    exact ih.push l

theorem Combines.mem_lines_of_include (h : d.Combines lines) {l : SourceLine} (hl : l ∈ lines)
    (hinclude : ("#%inc:" : Text) <+: l.text) : l ∈ d.lines := by
  obtain ⟨list, hlist⟩ := hinclude
  have hname : ("#%name:" : Text).isPrefixOf? ("#%inc:" ++ list) = none := rfl
  have hlibrary : ("#%lib" : Text).isPrefixOf? ("#%inc:" ++ list) = none := rfl
  have hbody : ¬ IsMetadata l.text := by
    rw [← hlist, IsMetadata, not_or]
    exact ⟨isPrefixOf?_eq_none_iff.mp hname, isPrefixOf?_eq_none_iff.mp hlibrary⟩
  rw [h.lines]
  exact List.mem_filter.mpr ⟨hl, by simpa using hbody⟩

end Draft

/-! ## Lines in another order -/

/-- Two bodies say the same about their snippets in the same order, and leave the same lines in the same
order; how the one is mixed with the other does not matter. -/
structure SameParts (lines lines' : List SourceLine) : Prop where
  metadata : (lines.map SourceLine.text).filter (fun t => IsMetadata t) =
    (lines'.map SourceLine.text).filter fun t => IsMetadata t
  body : (lines.map SourceLine.text).filter (fun t => ¬ IsMetadata t) =
    (lines'.map SourceLine.text).filter fun t => ¬ IsMetadata t

theorem valuesOf_eq {key : Text} (hkey : ∀ t, key <+: t → IsMetadata t) (lines : List SourceLine) :
    valuesOf key lines =
      ((lines.map SourceLine.text).filter fun t => IsMetadata t).filterMap key.isPrefixOf? := by
  rw [List.filterMap_filter, List.filterMap_map]
  apply List.filterMap_congr
  intro l _
  by_cases h : IsMetadata l.text
  · simp [h]
  · have hnone : key.isPrefixOf? l.text = none := isPrefixOf?_eq_none_iff.mpr fun hp => h (hkey _ hp)
    simp [h, hnone]

theorem SameParts.valuesOf {lines lines' : List SourceLine} (h : SameParts lines lines') {key : Text}
    (hkey : ∀ t, key <+: t → IsMetadata t) : valuesOf key lines = Snippetry.valuesOf key lines' := by
  rw [valuesOf_eq hkey, h.metadata, ← valuesOf_eq hkey]

theorem SameParts.exists_library {lines lines' : List SourceLine} (h : SameParts lines lines') :
    (∃ l ∈ lines, ("#%lib" : Text) <+: l.text) ↔ ∃ l ∈ lines', ("#%lib" : Text) <+: l.text := by
  have hmetadata (ls : List SourceLine) : (∃ l ∈ ls, ("#%lib" : Text) <+: l.text) ↔
      ∃ t ∈ (ls.map SourceLine.text).filter (fun t => IsMetadata t), ("#%lib" : Text) <+: t := by
    constructor
    · rintro ⟨l, hl, hp⟩
      have hm : IsMetadata l.text := .inr hp
      exact ⟨l.text, List.mem_filter.mpr ⟨List.mem_map_of_mem hl, by simpa using hm⟩, hp⟩
    · rintro ⟨t, ht, hp⟩
      obtain ⟨l, hl, rfl⟩ := List.mem_map.mp (List.mem_filter.mp ht).1
      exact ⟨l, hl, hp⟩
  rw [hmetadata, h.metadata, ← hmetadata]

theorem Draft.Combines.map_text_lines {lines : List SourceLine} {d : Draft} (h : d.Combines lines) :
    d.lines.map SourceLine.text =
      (lines.map SourceLine.text).filter fun t => ¬ IsMetadata t := by
  rw [h.lines, List.filter_map]
  rfl

/-- All that tells two drafts apart is where they stand, and their language. -/
theorem Draft.Combines.eq_of_sameParts {lines lines' : List SourceLine} {d d' : Draft}
    (h : d.Combines lines) (h' : d'.Combines lines') (hs : SameParts lines lines') :
    d.name = d'.name ∧ d.aliasName = d'.aliasName ∧ d.isLibrary = d'.isLibrary ∧
      d.lines.map SourceLine.text = d'.lines.map SourceLine.text := by
  refine ⟨?_, ?_, ?_, ?_⟩
  · rw [h.name, h'.name, hs.valuesOf fun t => .inl]
  · rw [h.aliasName, h'.aliasName, hs.valuesOf isMetadata_of_alias]
  · rw [Bool.eq_iff_iff, h.isLibrary, h'.isLibrary, hs.exists_library]
  · rw [h.map_text_lines, h'.map_text_lines, hs.body]

/-! ## Snippets that are made of lines -/

namespace Collector

def closed (c : Collector) (d : Draft) (stop : Nat) : Snippet :=
  ⟨if d.isLibrary then none else some c.nextId, d.language, d.name, d.aliasName, d.isLibrary, d.lines,
    .unvisited, ⟨d.start, stop⟩⟩

theorem snippets_close (c : Collector) (d : Draft) (stop : Nat) :
    (c.close d stop).snippets = c.snippets ++ [c.closed d stop] := by
  unfold close closed
  split <;> rfl

end Collector

/-- A collector made the snippet when it closed a block with lines, none of which goes over its end. -/
def Snippet.IsMade (s : Snippet) : Prop :=
  ∃ (c : Collector) (language : Language) (start : Nat) (lines : List SourceLine) (stop : Nat),
    s = c.closed (.ofLines language start lines) stop ∧ ∀ l ∈ lines, '\n' ∉ l.text

def Collector.Made (c : Collector) : Prop := ∀ s ∈ c.snippets, s.IsMade

namespace Collector.Made

variable {c : Collector}

theorem close (h : c.Made) (language : Language) (start : Nat) {lines : List SourceLine}
    (hlines : ∀ l ∈ lines, '\n' ∉ l.text) (stop : Nat) :
    (c.close (.ofLines language start lines) stop).Made := by
  intro s hs
  rw [snippets_close] at hs
  rcases List.mem_append.mp hs with hs | hs
  · exact h s hs
  · exact ⟨c, language, start, lines, stop, List.mem_singleton.mp hs, hlines⟩

theorem openBlock (h : c.Made) (tag : Text) (span : Span) : (c.openBlock tag span).1.Made := by
  unfold Collector.openBlock
  split <;> exact h

theorem exists_ofLanguage {tag : Text} {span : Span} {d : Draft} (h : (c.openBlock tag span).2 = some d) :
    ∃ language start, d = .ofLanguage language start := by
  unfold Collector.openBlock at h
  split at h
  · cases h
  · next language _ =>
    obtain rfl := Option.some.inj h
    exact ⟨language, span.start, rfl⟩

theorem collect (h : c.Made) {b : Plain.Block} (hbody : ∀ l ∈ b.body, '\n' ∉ l.text)
    (sourceSize : Nat) : (b.collect sourceSize c).Made := by
  have hopened := h.openBlock b.tag b.opener.span
  simp only [Plain.Block.collect]
  cases hdraft : (c.openBlock b.tag b.opener.span).2 with
  | none => exact hopened
  | some d =>
    obtain ⟨language, start, rfl⟩ := exists_ofLanguage hdraft
    cases b.closer with
    | none => exact hopened
    | some closer =>
      have hlines : Draft.pushLines (.ofLanguage language start) b.body =
          .ofLines language start (b.body.map fun l => ⟨l.text, l.span⟩) := by
        rw [Draft.pushLines, Draft.ofLines, List.foldl_map]
      dsimp only
      rw [hlines]
      refine hopened.close language start ?_ _
      intro l hl
      obtain ⟨line, hline, rfl⟩ := List.mem_map.mp hl
      exact hbody line hline

theorem scan_plain (fileId : Nat) (source : Text) : (Plain.scan fileId source).Made := by
  obtain ⟨blocks, hlayout⟩ := Plain.exists_layout (Text.lines source)
  rw [Plain.scan_eq_foldl_collect fileId hlayout]
  have hempty : (Collector.empty fileId).Made := by simp [Collector.Made, empty]
  refine List.foldlRecOn (motive := Collector.Made) blocks _ hempty ?_
  intro c h b hb
  exact h.collect (fun l hl => Text.newline_notMem_of_mem_lines (hlayout.mem_body hb hl)) _

end Collector.Made

namespace Matched.Reader

/-- The snippets are made of lines, and so is the draft of an open block as far as its text has come. -/
structure Making (r : Reader) : Prop where
  made : r.collector.Made
  block : ∀ a stop, r.block = some ⟨some a, stop⟩ → ∃ language start pieces,
    a = List.foldl Assembly.push (.start (.ofLanguage language start)) pieces

variable {r : Reader}

theorem Making.step (h : r.Making) (event : Event) : (r.step event).Making := by
  cases event with
  | opening info span =>
    rw [Reader.step, openBlock]
    split
    · exact ⟨h.made, by simp⟩
    · next tag _ =>
      refine ⟨h.made.openBlock tag span, ?_⟩
      intro a stop hblock
      obtain ⟨hassembly, -⟩ := OpenBlock.mk.inj (Option.some.inj hblock)
      obtain ⟨d, hd, rfl⟩ := Option.map_eq_some_iff.mp hassembly
      obtain ⟨language, start, rfl⟩ := Collector.Made.exists_ofLanguage hd
      exact ⟨language, start, [], rfl⟩
  | text piece =>
    refine ⟨h.made, ?_⟩
    intro a stop hblock
    obtain ⟨⟨assembly, end'⟩, hr, hpushed⟩ := Option.map_eq_some_iff.mp hblock
    obtain ⟨hassembly, -⟩ := OpenBlock.mk.inj hpushed
    obtain ⟨before, rfl, rfl⟩ := Option.map_eq_some_iff.mp hassembly
    obtain ⟨language, start, pieces, rfl⟩ := h.block before end' hr
    exact ⟨language, start, pieces ++ [piece], by rw [List.foldl_concat]⟩
  | closing =>
    simp only [Reader.step, closeBlock]
    split
    · next a stop hblock =>
      obtain ⟨language, start, pieces, rfl⟩ := h.block a stop hblock
      refine ⟨?_, by simp⟩
      rw [Assembly.start, Assembly.finish_foldl_push]
      exact h.made.close language start
        (fun l hl => newline_notMem_of_mem_handedAfter pieces List.not_mem_nil hl) stop
    · exact ⟨h.made, by simp⟩
  | other => exact h

theorem making_foldl_step (events : List Event) (h : r.Making) : (events.foldl step r).Making :=
  List.foldlRecOn (motive := Making) events _ h fun _ h event _ => h.step event

end Matched.Reader

/-- Whichever way a document is read, its snippets are made of lines. -/
theorem Document.IsReading.made {d : Document} (h : d.IsReading) : ∀ s ∈ d.snippets, s.IsMade := by
  have hevents (fileId : Nat) (events : List Matched.Event) :
      (Matched.readEvents fileId events).Made := by
    refine (Matched.Reader.making_foldl_step events ⟨?_, by simp [Matched.Reader.start]⟩).made
    simp [Collector.Made, Matched.Reader.start, Collector.empty]
  cases h with
  | source style fileId source =>
    cases style with
    | plain => exact Collector.Made.scan_plain fileId source
    | matched =>
      have hscan := hevents fileId ((Markdown.fencedBlocks source).flatMap Matched.eventsOf)
      rw [← Matched.scan_eq_readEvents] at hscan
      exact hscan
  | events fileId events => exact hevents fileId events

/-! ## What is said of a snippet -/

structure Snippet.SaysAs (s s' : Snippet) : Prop where
  name : s.name = s'.name
  aliasName : s.aliasName = s'.aliasName
  isLibrary : s.isLibrary = s'.isLibrary
  id : s.id = s'.id
  texts : s.rawLines.map SourceLine.text = s'.rawLines.map SourceLine.text

namespace Collector

theorem closed_saysAs (c : Collector) {d d' : Draft} {lines lines' : List SourceLine}
    (h : d.Combines lines) (h' : d'.Combines lines') (hs : SameParts lines lines') (stop stop' : Nat) :
    (c.closed d stop).SaysAs (c.closed d' stop') := by
  obtain ⟨hname, halias, hlibrary, htexts⟩ := h.eq_of_sameParts h' hs
  constructor
  · exact hname
  · exact halias
  · exact hlibrary
  · simp only [closed, hlibrary]
  · exact htexts

/-- Every snippet that is read is made of the lines of a block. What its lines say of it follows from
which they are, so two blocks that a collector might close next make the same snippet of the same
parts, whatever their order. -/
theorem combines_close :
    (∀ d : Document, d.IsReading → ∀ s ∈ d.snippets, s.IsMade) ∧
    (∀ (c : Collector) (language : Language) (start stop : Nat) (lines : List SourceLine),
      (c.close (.ofLines language start lines) stop).snippets =
        c.snippets ++ [c.closed (.ofLines language start lines) stop] ∧
      (c.closed (.ofLines language start lines) stop).draft.Combines lines ∧
      ∀ l ∈ lines, ("#%inc:" : Text) <+: l.text →
        l ∈ (c.closed (.ofLines language start lines) stop).rawLines) ∧
    ∀ (c : Collector) (language language' : Language) (start start' stop stop' : Nat)
      (lines lines' : List SourceLine), SameParts lines lines' →
      (c.closed (.ofLines language start lines) stop).SaysAs
        (c.closed (.ofLines language' start' lines') stop') := by
  refine ⟨fun d h => h.made, ?_, ?_⟩
  · intro c language start stop lines
    have hcombines := Draft.combines_ofLines language start lines
    refine ⟨c.snippets_close _ stop, hcombines, ?_⟩
    intro l hl hinclude
    exact hcombines.mem_lines_of_include hl hinclude
  · intro c language language' start start' stop stop' lines lines' hs
    exact c.closed_saysAs (Draft.combines_ofLines language start lines)
      (Draft.combines_ofLines language' start' lines') hs stop stop'

/-- A name that a blank one takes away, an alias that a blank one leaves, and a line that makes a
library without a colon, in two orders. -/
theorem combines_close_mixed :
    let lines : List SourceLine := [⟨"#%name: setup", ⟨6, 19⟩⟩, ⟨"#%library", ⟨20, 29⟩⟩,
      ⟨"#%inc: base", ⟨30, 41⟩⟩, ⟨"#%lib: tools", ⟨42, 54⟩⟩, ⟨"#%name: ", ⟨55, 63⟩⟩,
      ⟨"echo", ⟨64, 68⟩⟩, ⟨"#%lib:", ⟨69, 75⟩⟩]
    let lines' : List SourceLine := [⟨"#%inc: base", ⟨6, 17⟩⟩, ⟨"echo", ⟨18, 22⟩⟩,
      ⟨"#%name: setup", ⟨23, 36⟩⟩, ⟨"#%library", ⟨37, 46⟩⟩, ⟨"#%lib: tools", ⟨47, 59⟩⟩,
      ⟨"#%name: ", ⟨60, 68⟩⟩, ⟨"#%lib:", ⟨69, 75⟩⟩]
    let s := (empty 0).closed (.ofLines .bash 0 lines) 79
    SameParts lines lines' ∧ s.SaysAs ((empty 0).closed (.ofLines .bash 0 lines') 79) ∧
      s.draft.Combines lines ∧ s.name = none ∧ s.aliasName = some "tools" ∧ s.isLibrary = true ∧
      s.rawLines = [⟨"#%inc: base", ⟨30, 41⟩⟩, ⟨"echo", ⟨64, 68⟩⟩] := by
  intro lines lines' s
  have hs : SameParts lines lines' := ⟨by decide, by decide⟩
  refine ⟨hs, combines_close.2.2 (empty 0) .bash .bash 0 0 79 79 lines lines' hs,
    (combines_close.2.1 (empty 0) .bash 0 79 lines).2.1, ?_⟩
  decide

end Collector
end Snippetry
