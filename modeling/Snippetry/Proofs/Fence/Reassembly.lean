import Mathlib.Data.List.Chain
import Mathlib.Tactic.Tauto
import Snippetry.Fence.Matched
import Snippetry.Proofs.Text.Slices

/-! # Lines put together from pieces

The text of a matched block comes in pieces, which may be cut anywhere. An assembly hands a line over
to its draft as soon as the line has its newline, and the rest at the end. However the text is cut,
these are the lines of the text as a whole, except where a cut parts a carriage return from its
newline; with a piece without characters between the two, neighbours alone do not tell. -/
namespace Snippetry

namespace Text

variable {t : Text}

theorem chopEnd_append {s : Text} (hne : t ≠ []) (c : Char) :
    chopEnd c (s ++ t) = s ++ chopEnd c t := by
  have hlast : (s ++ t).getLast? = t.getLast? := List.getLast?_append_of_ne_nil s hne
  unfold chopEnd
  rw [hlast]
  split
  · exact List.dropLast_append_of_ne_nil hne
  · rfl

theorem mem_of_mem_chopEnd {c d : Char} (h : d ∈ chopEnd c t) : d ∈ t := by
  unfold chopEnd at h
  split at h
  · exact (List.dropLast_sublist t).mem h
  · exact h

theorem chopEnd_eq_self_iff {c : Char} : chopEnd c t = t ↔ t.getLast? ≠ some c := by
  constructor
  · intro h hlast
    obtain ⟨s, rfl⟩ := List.getLast?_eq_some_iff.mp hlast
    have hlength := congrArg List.length h
    simp at hlength
  · exact chopEnd_of_ne

/-- A source can be cut at an offset in one way only. -/
theorem append_left_injective {before before' after after' : Text} (hsize : before.size = before'.size)
    (h : before ++ after = before' ++ after') : before = before' := by
  have htake := takeBytes?_append before after
  rw [h, hsize, takeBytes?_append] at htake
  exact (Option.some.inj htake).symm

theorem rows_of_notMem (hn : '\n' ∉ t) (hne : t ≠ []) : rows t = [t] := by
  have hlast : t.getLast? ≠ some '\n' := fun h => hn (List.mem_of_getLast? h)
  simp [rows, cutLines_of_notMem hn hne, hlast]

theorem rows_append (hn : '\n' ∉ t) (rest : Text) :
    rows (t ++ '\n' :: rest) = chopEnd '\r' t :: rows rest := by
  have hchomp : chomp (t ++ ['\n']) = chopEnd '\r' t := by rw [chomp, chopEnd_concat]
  simp [rows, cutLines_append hn, hchomp]

end Text

namespace Matched

open Markdown (Piece)

/-! ## What is handed over -/

def partsAt : Nat → List Text → List Piece
  | _, [] => []
  | offset, part :: parts => ⟨part, offset⟩ :: partsAt (offset + part.size) parts

/-- The lines that are completed by parts with no newline inside, and the line that is left
incomplete. -/
def handedFrom : LineBuffer → List Piece → List SourceLine
  | line, [] =>
    match line.start with
    | none => []
    | some start => [⟨line.text, ⟨start, start + line.text.size⟩⟩]
  | line, part :: parts =>
    let start := line.start.getD part.start
    if part.text.getLast? = some '\n' then
      ⟨line.text ++ Text.chopEnd '\r' part.text.dropLast, ⟨start, part.start + part.text.size - 1⟩⟩
        :: handedFrom ⟨[], none⟩ parts
    else handedFrom ⟨line.text ++ part.text, some start⟩ parts

/-- The lines that an assembly hands over when it continues `line` with the pieces and is finished. -/
def handedAfter (line : LineBuffer) (pieces : List Piece) : List SourceLine :=
  handedFrom line (pieces.flatMap fun p => partsAt p.start (Text.cutLines p.text))

def handed (pieces : List Piece) : List SourceLine := handedAfter ⟨[], none⟩ pieces

section Steps

variable {part : Text} {line : LineBuffer} {start : Nat} {pieces : List Piece}

theorem handedAfter_empty : handedAfter line (⟨[], start⟩ :: pieces) = handedAfter line pieces := rfl

/-- A piece without a newline continues the line, or begins it where the piece stands. -/
theorem handedAfter_open (hn : '\n' ∉ part) (hne : part ≠ []) :
    handedAfter line (⟨part, start⟩ :: pieces) =
      handedAfter ⟨line.text ++ part, some (line.start.getD start)⟩ pieces := by
  have hlast : part.getLast? ≠ some '\n' := fun h => hn (List.mem_of_getLast? h)
  simp [handedAfter, Text.cutLines_of_notMem hn hne, partsAt, handedFrom, hlast]

/-- A newline completes the line, and what follows it in the piece begins another one. -/
theorem handedAfter_line (hn : '\n' ∉ part) (rest : Text) :
    handedAfter line (⟨part ++ '\n' :: rest, start⟩ :: pieces) =
      ⟨line.text ++ Text.chopEnd '\r' part, ⟨line.start.getD start, start + part.size⟩⟩ ::
        handedAfter ⟨[], none⟩ (⟨rest, start + part.size + 1⟩ :: pieces) := by
  have hsize : (part ++ ['\n']).size = part.size + 1 := by rw [Text.size_append]; rfl
  have hstop : start + (part.size + 1) - 1 = start + part.size := by omega
  simp [handedAfter, Text.cutLines_append hn, partsAt, handedFrom, hsize, hstop, Nat.add_assoc]

/-- Pieces are taken up to a newline, or up to the end of a piece without one. -/
theorem pieces_induction {motive : List Piece → Prop} (nil : motive [])
    (empty : ∀ start pieces, motive pieces → motive (⟨[], start⟩ :: pieces))
    (unfinished : ∀ part start pieces, '\n' ∉ part → part ≠ [] → motive pieces →
      motive (⟨part, start⟩ :: pieces))
    (complete : ∀ part rest start pieces, '\n' ∉ part →
      motive (⟨rest, start + part.size + 1⟩ :: pieces) →
      motive (⟨part ++ '\n' :: rest, start⟩ :: pieces))
    (pieces : List Piece) : motive pieces := by
  induction pieces with
  | nil => exact nil
  | cons p pieces ih =>
    obtain ⟨text, start⟩ := p
    induction text using Text.line_induction generalizing start with
    | nil => exact empty start pieces ih
    | last part hn hne => exact unfinished part start pieces hn hne ih
    | cons part rest hn ihrest => exact complete part rest start pieces hn (ihrest _)

end Steps

namespace Assembly

variable {a : Assembly} {part : Text}

theorem push_open (hn : '\n' ∉ part) (hne : part ≠ []) (start : Nat) :
    a.push ⟨part, start⟩ = ⟨a.draft, a.line.text ++ part, some (a.line.start.getD start)⟩ := by
  have hlast : part.getLast? ≠ some '\n' := fun h => hn (List.mem_of_getLast? h)
  rw [push, Text.cutLines_of_notMem hn hne, pushParts, pushParts, pushPart]
  split
  · next h => exact absurd h hlast
  · rfl

theorem push_line (hn : '\n' ∉ part) (rest : Text) (start : Nat) :
    a.push ⟨part ++ '\n' :: rest, start⟩ =
      (⟨a.draft.push ⟨a.line.text ++ Text.chopEnd '\r' part,
        ⟨a.line.start.getD start, start + part.size⟩⟩, [], none⟩ : Assembly).push
          ⟨rest, start + part.size + 1⟩ := by
  have hsize : (part ++ ['\n']).size = part.size + 1 := by rw [Text.size_append]; rfl
  have hstop : start + (part.size + 1) - 1 = start + part.size := by omega
  simp only [push, Text.cutLines_append hn, pushParts, pushPart, List.getLast?_concat,
    List.dropLast_concat, hsize, hstop, Nat.add_assoc]

/-- What an assembly makes of a draft are the lines that it hands over to it. -/
theorem finish_foldl_push (pieces : List Piece) (draft : Draft) (line : LineBuffer) :
    (pieces.foldl push ⟨draft, line⟩).finish = (handedAfter line pieces).foldl Draft.push draft := by
  induction pieces using pieces_induction generalizing draft line with
  | nil =>
    obtain ⟨text, start⟩ := line
    cases start <;> rfl
  | empty start pieces ih =>
    rw [handedAfter_empty]
    exact ih draft line
  | unfinished part start pieces hn hne ih =>
    rw [List.foldl_cons, push_open hn hne, handedAfter_open hn hne]
    exact ih draft _
  | complete part rest start pieces hn ih =>
    rw [List.foldl_cons, push_line hn, handedAfter_line hn, List.foldl_cons]
    exact ih _ _

end Assembly

/-- However the pieces are cut, a line has no newline inside. -/
theorem newline_notMem_of_mem_handedAfter (pieces : List Piece) {line : LineBuffer}
    (hn : '\n' ∉ line.text) {l : SourceLine} (hl : l ∈ handedAfter line pieces) : '\n' ∉ l.text := by
  induction pieces using pieces_induction generalizing line with
  | nil =>
    obtain ⟨text, start⟩ := line
    cases start with
    | none => cases hl
    | some start =>
      obtain rfl := List.mem_singleton.mp hl
      exact hn
  | empty start pieces ih => exact ih hn hl
  | unfinished part start pieces hpart hne ih =>
    rw [handedAfter_open hpart hne] at hl
    exact ih (by simp [hn, hpart]) hl
  | complete part rest start pieces hpart ih =>
    rw [handedAfter_line hpart] at hl
    rcases List.mem_cons.mp hl with rfl | hl
    · have hchopped : '\n' ∉ Text.chopEnd '\r' part := fun h => hpart (Text.mem_of_mem_chopEnd h)
      simp [hn, hchopped]
    · exact ih List.not_mem_nil hl

/-! ## Where the text is cut does not matter -/

/-- No text ends with a carriage return while the very next one begins with a newline. -/
def Unparted (texts : List Text) : Prop :=
  texts.IsChain fun s t => s.getLast? = some '\r' → t.head? ≠ some '\n'

instance (texts : List Text) : Decidable (Unparted texts) :=
  inferInstanceAs (Decidable (List.IsChain _ _))

/-- The same of the texts that have characters. -/
def Uncut (texts : List Text) : Prop := Unparted (texts.filter fun t => t ≠ [])

instance (texts : List Text) : Decidable (Uncut texts) :=
  inferInstanceAs (Decidable (Unparted _))

section Cutting

variable {texts : List Text} {part rest s : Text}

theorem uncut_nil_cons : Uncut ([] :: texts) ↔ Uncut texts := Iff.rfl

theorem head?_flatten_filter (texts : List Text) :
    (∀ t ∈ (texts.filter fun t => t ≠ []).head?, t.head? ≠ some '\n') ↔
      texts.flatten.head? ≠ some '\n' := by
  induction texts with
  | nil => simp
  | cons t texts ih =>
    cases t with
    | nil => simpa using ih
    | cons c t => simp

/-- Of a text only its end matters, and of what follows only the beginning. -/
theorem uncut_cons : Uncut (s :: texts) ↔
    (s.getLast? = some '\r' → texts.flatten.head? ≠ some '\n') ∧ Uncut texts := by
  by_cases hs : s = []
  · subst hs
    simp [uncut_nil_cons]
  · have hfilter : (s :: texts).filter (fun t => t ≠ []) = s :: texts.filter fun t => t ≠ [] := by
      simp [hs]
    rw [Uncut, hfilter, Unparted, List.isChain_cons, ← head?_flatten_filter]
    constructor
    · rintro ⟨hfirst, hrest⟩
      exact ⟨fun hlast t ht => hfirst t ht hlast, hrest⟩
    · rintro ⟨hfirst, hrest⟩
      exact ⟨fun t ht hlast => hfirst hlast t ht, hrest⟩

/-- A text without a newline can be joined with the one before it. -/
theorem uncut_append (hn : '\n' ∉ part) (hne : part ≠ []) :
    Uncut (s :: part :: texts) ↔ Uncut ((s ++ part) :: texts) := by
  have hhead : (part ++ texts.flatten).head? ≠ some '\n' := by
    obtain ⟨c, part, rfl⟩ := List.exists_cons_of_ne_nil hne
    intro h
    exact hn (by simp_all)
  have hlast : (s ++ part).getLast? = part.getLast? := List.getLast?_append_of_ne_nil s hne
  rw [uncut_cons, uncut_cons, uncut_cons, List.flatten_cons, hlast]
  exact and_iff_right fun _ => hhead

/-- A newline inside a text parts nothing from what comes before it but what is at its beginning. -/
theorem uncut_line (hn : '\n' ∉ part) : Uncut (s :: (part ++ '\n' :: rest) :: texts) ↔
    ¬ (part = [] ∧ s.getLast? = some '\r') ∧ Uncut (rest :: texts) := by
  have hlast : (part ++ '\n' :: rest).getLast? = some '\r' ↔ rest.getLast? = some '\r' := by
    cases rest with
    | nil => simp
    | cons c rest => simp
  have hhead : (part ++ '\n' :: rest ++ texts.flatten).head? = some '\n' ↔ part = [] := by
    cases part with
    | nil => simp
    | cons c part =>
      have hc : c ≠ '\n' := fun h => hn (h ▸ List.mem_cons_self)
      simp [hc]
  rw [uncut_cons, uncut_cons, uncut_cons, List.flatten_cons, hlast, Ne, hhead]
  tauto

end Cutting

/-- The lines that are handed over are those of the text, unless it is cut inside the end of a line. -/
theorem map_text_handedAfter_iff (pieces : List Piece) {line : LineBuffer} (hn : '\n' ∉ line.text)
    (hstart : line.start = none ↔ line.text = []) :
    (handedAfter line pieces).map SourceLine.text =
        Text.rows (line.text ++ pieces.flatMap Piece.text) ↔
      Uncut (line.text :: pieces.map Piece.text) := by
  induction pieces using pieces_induction generalizing line with
  | nil =>
    have huncut : Uncut [line.text] := uncut_cons.mpr ⟨by simp, List.isChain_nil⟩
    refine iff_of_true ?_ huncut
    obtain ⟨text, start⟩ := line
    by_cases ht : text = []
    · obtain rfl : start = none := hstart.mpr ht
      subst ht
      rfl
    · obtain ⟨first, rfl⟩ := Option.ne_none_iff_exists'.mp (mt hstart.mp ht)
      simp [handedAfter, handedFrom, Text.rows_of_notMem hn ht]
  | empty start pieces ih =>
    rw [handedAfter_empty, List.flatMap_cons, List.nil_append, ih hn hstart, List.map_cons, uncut_cons,
      uncut_cons]
    rfl
  | unfinished part start pieces hpart hne ih =>
    have hjoined : '\n' ∉ line.text ++ part := by simp [hn, hpart]
    rw [handedAfter_open hpart hne, List.flatMap_cons, ← List.append_assoc, List.map_cons,
      uncut_append hpart hne]
    exact ih hjoined (by simp [hne])
  | complete part rest start pieces hpart ih =>
    have hjoined : '\n' ∉ line.text ++ part := by simp [hn, hpart]
    have htext : line.text ++ (⟨part ++ '\n' :: rest, start⟩ :: pieces).flatMap Piece.text =
        (line.text ++ part) ++ '\n' :: (rest ++ pieces.flatMap Piece.text) := by simp
    have hfirst : line.text ++ Text.chopEnd '\r' part = Text.chopEnd '\r' (line.text ++ part) ↔
        ¬ (part = [] ∧ line.text.getLast? = some '\r') := by
      by_cases hp : part = []
      · subst hp
        have hnil : Text.chopEnd '\r' [] = [] := rfl
        rw [hnil, List.append_nil, eq_comm, Text.chopEnd_eq_self_iff]
        simp
      · simp [Text.chopEnd_append hp, hp]
    rw [handedAfter_line hpart, htext, Text.rows_append hjoined, List.map_cons, List.cons.injEq, hfirst,
      List.map_cons, uncut_line hpart]
    exact and_congr_right fun _ => ih (by simp) (by simp)

/-! ## Where the lines stand -/

structure Contiguous (source : Text) (pieces : List Piece) : Prop where
  slices : ∀ p ∈ pieces, Text.slice? source ⟨p.start, p.start + p.text.size⟩ = some p.text
  adjacent : pieces.IsChain fun p q => q.start = p.start + p.text.size

instance (source : Text) (pieces : List Piece) : Decidable (Contiguous source pieces) :=
  decidable_of_iff ((∀ p ∈ pieces, Text.slice? source ⟨p.start, p.start + p.text.size⟩ = some p.text) ∧
      pieces.IsChain fun p q => q.start = p.start + p.text.size)
    ⟨fun ⟨slices, adjacent⟩ => ⟨slices, adjacent⟩, fun ⟨slices, adjacent⟩ => ⟨slices, adjacent⟩⟩

/-- Each piece stands where the one before it ends, the first one at `offset`. -/
inductive LaidFrom : Nat → List Piece → Prop
  | nil (offset : Nat) : LaidFrom offset []
  | cons {text : Text} {offset : Nat} {pieces : List Piece} (after : LaidFrom (offset + text.size) pieces) :
      LaidFrom offset (⟨text, offset⟩ :: pieces)

/-- Pieces that are slices one after the other are together a part of the source. -/
theorem Contiguous.exists_source {source : Text} {p : Piece} {pieces : List Piece}
    (h : Contiguous source (p :: pieces)) : ∃ before after,
      source = before ++ (p :: pieces).flatMap Piece.text ++ after ∧ before.size = p.start ∧
        LaidFrom p.start (p :: pieces) := by
  induction pieces generalizing p with
  | nil =>
    have hslice := h.slices p List.mem_cons_self
    obtain ⟨before, after, rfl, hspan⟩ := Text.slice?_eq_some_iff.mp hslice
    have hstart : p.start = before.size := congrArg Span.start hspan
    exact ⟨before, after, by simp, hstart.symm, .cons (.nil _)⟩
  | cons q pieces ih =>
    have hslice := h.slices p List.mem_cons_self
    obtain ⟨hnext, hchain⟩ := List.isChain_cons_cons.mp h.adjacent
    obtain ⟨before, after, hsource, hbefore, hlaid⟩ :=
      ih ⟨fun r hr => h.slices r (List.mem_cons_of_mem _ hr), hchain⟩
    obtain ⟨first, rest, hfirst, hspan⟩ := Text.slice?_eq_some_iff.mp hslice
    have hstart : p.start = first.size := congrArg Span.start hspan
    have hsize : before.size = (first ++ p.text).size := by
      rw [hbefore, hnext, hstart, Text.size_append]
    have hsplit : before ++ ((q :: pieces).flatMap Piece.text ++ after) = (first ++ p.text) ++ rest := by
      rw [← List.append_assoc, ← hsource, hfirst]
    have hprefix : before = first ++ p.text := Text.append_left_injective hsize hsplit
    refine ⟨first, after, ?_, hstart.symm, .cons ?_⟩
    · rw [hsource, hprefix, List.flatMap_cons (f := Piece.text) (x := p)]
      simp
    · rw [← hnext]
      exact hlaid

/-- A line that has no text yet begins where it ends, and any other where its first piece did. -/
theorem origin_eq {line : LineBuffer} {n : Nat}
    (hstart : line.start = if line.text = [] then none else some n) :
    line.start.getD (n + line.text.size) = n := by
  by_cases ht : line.text = []
  · simp [hstart, ht]
  · simp [hstart, ht]

/-- Wherever the pieces are cut, the span of a line covers its text. -/
theorem slice?_of_mem_handedAfter {source after : Text} (pieces : List Piece) {line : LineBuffer}
    {before : Text} (hsource : source = before ++ line.text ++ pieces.flatMap Piece.text ++ after)
    (hlaid : LaidFrom (before.size + line.text.size) pieces)
    (hstart : line.start = if line.text = [] then none else some before.size)
    (hr : '\r' ∉ pieces.flatMap Piece.text) {l : SourceLine} (hl : l ∈ handedAfter line pieces) :
    Text.slice? source l.span = some l.text := by
  induction pieces using pieces_induction generalizing line before with
  | nil =>
    obtain ⟨text, start⟩ := line
    by_cases ht : text = []
    · subst ht
      obtain rfl : start = none := hstart
      cases hl
    · obtain rfl : start = some before.size := hstart.trans (if_neg ht)
      obtain rfl := List.mem_singleton.mp hl
      rw [hsource, List.flatMap_nil, List.append_nil]
      exact Text.slice?_append before text after
  | empty start pieces ih =>
    cases hlaid with
    | cons hafter => exact ih hsource hafter hstart hr hl
  | unfinished part start pieces hn hne ih =>
    cases hlaid with
    | cons hafter =>
      rw [handedAfter_open hn hne] at hl
      rw [List.flatMap_cons, List.mem_append, not_or] at hr
      have horigin := origin_eq hstart
      refine @ih _ before (by simp [hsource]) ?_ ?_ hr.2 hl
      · rwa [Text.size_append, ← Nat.add_assoc]
      · simp [horigin, hne]
  | complete part rest start pieces hn ih =>
    cases hlaid with
    | cons hafter =>
      rw [handedAfter_line hn] at hl
      rw [List.flatMap_cons, List.mem_append, not_or] at hr
      have hpart : part.getLast? ≠ some '\r' := fun h =>
        hr.1 (List.mem_append_left _ (List.mem_of_getLast? h))
      have horigin := origin_eq hstart
      have hnewline : (part ++ '\n' :: rest).size = part.size + 1 + rest.size := by
        have hnl : '\n'.utf8Size = 1 := rfl
        rw [Text.size_append, Text.size_cons, hnl, Nat.add_assoc]
      rcases List.mem_cons.mp hl with rfl | hl
      · rw [Text.chopEnd_of_ne hpart, horigin]
        have hspan : before.size + line.text.size + part.size =
            before.size + (line.text ++ part).size := by
          rw [Text.size_append, Nat.add_assoc]
        have hparts : source = before ++ (line.text ++ part) ++
            ('\n' :: rest ++ pieces.flatMap Piece.text ++ after) := by simp [hsource]
        rw [hspan, hparts]
        exact Text.slice?_append _ _ _
      · have hoffset : (before ++ line.text ++ part ++ ['\n']).size + Text.size [] =
            before.size + line.text.size + part.size + 1 := by
          simp only [Text.size_append]
          rfl
        refine @ih _ (before ++ line.text ++ part ++ ['\n']) (by simp [hsource]) ?_ rfl ?_ hl
        · rw [hoffset]
          refine .cons ?_
          rw [hnewline] at hafter
          simpa only [Nat.add_assoc] using hafter
        · rw [List.flatMap_cons, List.mem_append, not_or]
          exact ⟨fun h => hr.1 (by simp [h]), hr.2⟩

/-- A carriage return and its newline, with a piece without characters between them. -/
def sundered : List Piece := [⟨"a\r", 6⟩, ⟨"", 8⟩, ⟨"\nb", 8⟩]

/-- No two neighbours part a carriage return from its newline, and yet it stays in its line. -/
theorem map_text_sundered : Unparted (sundered.map Piece.text) ∧
    Text.rows (sundered.flatMap Piece.text) = ["a", "b"] ∧
    (sundered.foldl Assembly.push (.start (.ofLanguage .sh 0))).finish.lines.map SourceLine.text =
      ["a\r", "b"] := by decide

/-- Whichever draft the pieces of a text are assembled for, it is given the same lines. They are the
lines of the text as a whole just as long as no carriage return is cut off from its newline, pieces
without characters left aside; and where the pieces are slices of a source one after the other and
hold no carriage return, the span of every line covers exactly its text. -/
theorem reassembled (pieces : List Piece) :
    (∀ draft, (pieces.foldl Assembly.push (.start draft)).finish =
      (handed pieces).foldl Draft.push draft) ∧
    ((handed pieces).map SourceLine.text = Text.rows (pieces.flatMap Piece.text) ↔
      Uncut (pieces.map Piece.text)) ∧
    (∀ source, Contiguous source pieces → '\r' ∉ pieces.flatMap Piece.text →
      ∀ line ∈ handed pieces, Text.slice? source line.span = some line.text) := by
  refine ⟨fun draft => Assembly.finish_foldl_push pieces draft _, ?_, ?_⟩
  · have hempty : '\n' ∉ ([] : Text) := List.not_mem_nil
    exact map_text_handedAfter_iff pieces hempty (by simp)
  · intro source hcontiguous hr line hl
    cases pieces with
    | nil => cases hl
    | cons p pieces =>
      obtain ⟨before, after, hsource, hbefore, hlaid⟩ := hcontiguous.exists_source
      have hfrom : LaidFrom (before.size + Text.size []) (p :: pieces) := by
        rw [hbefore]
        exact hlaid
      have hparts : source = before ++ [] ++ (p :: pieces).flatMap Piece.text ++ after := by
        rwa [List.append_nil]
      exact slice?_of_mem_handedAfter (p :: pieces) hparts hfrom rfl hr hl

/-- A line over three pieces, an empty one among them, an empty line and a line without an end. -/
def scattered : List Piece := [⟨"ä", 6⟩, ⟨"", 8⟩, ⟨" b\n\ne", 8⟩, ⟨"nd", 13⟩]

theorem reassembled_scattered :
    Contiguous "```sh\nä b\n\nend" scattered ∧ '\r' ∉ scattered.flatMap Piece.text ∧
    (handed scattered).map SourceLine.text = ["ä b", "", "end"] ∧
    ∀ line ∈ handed scattered, Text.slice? "```sh\nä b\n\nend" line.span = some line.text := by
  have hcontiguous : Contiguous "```sh\nä b\n\nend" scattered := by decide +kernel
  have hr : '\r' ∉ scattered.flatMap Piece.text := by decide
  have huncut : Uncut (scattered.map Piece.text) := by decide
  obtain ⟨-, htexts, hspans⟩ := reassembled scattered
  exact ⟨hcontiguous, hr, htexts.mpr huncut, hspans _ hcontiguous hr⟩

end Matched
end Snippetry
