import Mathlib.Data.List.TakeWhile
import Snippetry.Text.Line

/-! # The lines of a source, and where they stand

A source is its lines and their ends, one after the other. This determines the lines, and the span of a
line covers exactly its text. -/
namespace Snippetry

def Line.shift (n : Nat) (l : Line) : Line := ⟨l.start + n, l.text⟩

theorem Line.span_shift (n : Nat) (l : Line) : (l.shift n).span = l.span.shift n := by
  simp only [span, shift, Span.shift, Span.mk.injEq, true_and]
  omega

namespace Text

inductive LineEnd (text : Text) : Text → Prop
  | newline (h : text.getLast? ≠ some '\r') : LineEnd text ['\n']
  | returned : LineEnd text ['\r', '\n']

/-- What stands at the end of a source after the text of its last line. -/
inductive LastEnd (text : Text) : Text → Prop
  | nothing (h : text ≠ []) (hr : text.getLast? ≠ some '\r') : LastEnd text []
  | returned : LastEnd text ['\r']

inductive Lined : Nat → Text → List Line → Prop
  | nil (offset : Nat) : Lined offset [] []
  | last {offset : Nat} {text ending : Text} (inner : '\n' ∉ text) (ends : LastEnd text ending) :
      Lined offset (text ++ ending) [⟨offset, text⟩]
  | cons {offset : Nat} {text ending rest : Text} {lines : List Line} (inner : '\n' ∉ text)
      (ends : LineEnd text ending) (after : Lined (offset + (text ++ ending).size) rest lines) :
      Lined offset (text ++ ending ++ rest) (⟨offset, text⟩ :: lines)

section Cut

theorem cutLines_of_notMem {t : Text} (h : '\n' ∉ t) (hn : t ≠ []) : cutLines t = [t] := by
  induction t with
  | nil => exact absurd rfl hn
  | cons c t ih =>
    have hc : c ≠ '\n' := fun e => h (e ▸ List.mem_cons_self)
    have ht : '\n' ∉ t := fun m => h (List.mem_cons_of_mem _ m)
    by_cases hnil : t = []
    · simp [cutLines, hc, hnil]
    · simp [cutLines, hc, ih ht hnil]

theorem cutLines_append {t : Text} (h : '\n' ∉ t) (rest : Text) :
    cutLines (t ++ '\n' :: rest) = (t ++ ['\n']) :: cutLines rest := by
  induction t with
  | nil => simp [cutLines]
  | cons c t ih =>
    have hc : c ≠ '\n' := fun e => h (e ▸ List.mem_cons_self)
    have ht : '\n' ∉ t := fun m => h (List.mem_cons_of_mem _ m)
    simp [cutLines, hc, ih ht]

@[simp] theorem chopEnd_concat (c : Char) (t : Text) : chopEnd c (t ++ [c]) = t := by
  simp [chopEnd]

theorem chopEnd_of_ne {c : Char} {t : Text} (h : t.getLast? ≠ some c) : chopEnd c t = t := by
  simp [chopEnd, h]

theorem chomp_newline {t : Text} (h : t.getLast? ≠ some '\r') : chomp (t ++ ['\n']) = t := by
  rw [chomp, chopEnd_concat, chopEnd_of_ne h]

theorem chomp_returned (t : Text) : chomp (t ++ ['\r', '\n']) = t := by
  have h : t ++ ['\r', '\n'] = (t ++ ['\r']) ++ ['\n'] := by simp
  rw [h, chomp, chopEnd_concat, chopEnd_concat]

theorem chomp_of_notMem {t : Text} (h : '\n' ∉ t) : chomp t = chopEnd '\r' t := by
  have hn : t.getLast? ≠ some '\n' := fun he => h (List.mem_of_getLast? he)
  rw [chomp, chopEnd_of_ne hn]

theorem LineEnd.chomp {text ending : Text} (h : LineEnd text ending) :
    Text.chomp (text ++ ending) = text := by
  cases h with
  | newline h => exact chomp_newline h
  | returned => exact chomp_returned text

/-- A line with its end is one piece. -/
theorem LineEnd.cutLines {text ending : Text} (h : LineEnd text ending) (inner : '\n' ∉ text)
    (rest : Text) : Text.cutLines (text ++ ending ++ rest) = (text ++ ending) :: Text.cutLines rest := by
  cases h with
  | newline h => simpa using cutLines_append inner rest
  | returned => simpa using cutLines_append (t := text ++ ['\r']) (by simp [inner]) rest

theorem LastEnd.chomp {text ending : Text} (h : LastEnd text ending) (inner : '\n' ∉ text) :
    Text.chomp (text ++ ending) = text := by
  cases h with
  | nothing hn hr => rw [List.append_nil, chomp_of_notMem inner, chopEnd_of_ne hr]
  | returned => rw [chomp_of_notMem (by simp [inner]), chopEnd_concat]

theorem LastEnd.cutLines {text ending : Text} (h : LastEnd text ending) (inner : '\n' ∉ text) :
    Text.cutLines (text ++ ending) = [text ++ ending] := by
  cases h with
  | nothing hn hr => exact cutLines_of_notMem (by simpa using inner) (by simpa using hn)
  | returned => exact cutLines_of_notMem (by simp [inner]) (by simp)

/-- A text is empty, one line without an end, or a line with a newline and then a text. -/
theorem line_induction {motive : Text → Prop} (nil : motive [])
    (last : ∀ t, '\n' ∉ t → t ≠ [] → motive t)
    (cons : ∀ t rest, '\n' ∉ t → motive rest → motive (t ++ '\n' :: rest)) (t : Text) : motive t := by
  induction hn : t.length using Nat.strongRecOn generalizing t with
  | _ n ih =>
    by_cases hm : '\n' ∈ t
    · obtain ⟨before, rest, rfl, hb⟩ := List.eq_append_cons_of_mem hm
      exact cons before rest hb (ih rest.length (by simp [← hn]; omega) rest rfl)
    · by_cases ht : t = []
      · exact ht ▸ nil
      · exact last t hm ht

theorem cutLines_flatMap {ts : List Text} (h : ∀ t ∈ ts, '\n' ∉ t) (rest : Text) :
    cutLines (ts.flatMap (· ++ ['\n']) ++ rest) = ts.map (· ++ ['\n']) ++ cutLines rest := by
  induction ts with
  | nil => rfl
  | cons t ts ih =>
    have ht := cutLines_append (h t List.mem_cons_self) (ts.flatMap (· ++ ['\n']) ++ rest)
    rw [List.flatMap_cons, List.append_assoc, List.append_assoc, List.singleton_append, ht,
      ih fun t ht => h t (List.mem_cons_of_mem _ ht)]
    rfl

/-- Lines that are written with their ends are read again. -/
theorem map_text_linesAt {ts : List Text} {ending : Text}
    (h : ∀ t ∈ ts, '\n' ∉ t ∧ LineEnd t ending) (offset : Nat) :
    (linesAt offset (cutLines (ts.flatMap (· ++ ending)))).map Line.text = ts := by
  induction ts generalizing offset with
  | nil => rfl
  | cons t ts ih =>
    obtain ⟨inner, ends⟩ := h t List.mem_cons_self
    rw [List.flatMap_cons, ends.cutLines inner, linesAt, List.map_cons, ends.chomp,
      ih fun t ht => h t (List.mem_cons_of_mem _ ht)]

end Cut

theorem Lined.eq_linesAt {offset : Nat} {source : Text} {lines : List Line}
    (h : Lined offset source lines) : lines = linesAt offset (cutLines source) := by
  induction h with
  | nil offset => rfl
  | last inner ends => rw [ends.cutLines inner, linesAt, linesAt, ends.chomp inner]
  | cons inner ends after ih => rw [ends.cutLines inner, linesAt, ends.chomp, ih]

/-- Split a carriage return off the end of a line. -/
theorem exists_lineEnd (t : Text) :
    ∃ text ending, t ++ ['\n'] = text ++ ending ∧ LineEnd text ending ∧ ∀ c ∈ text, c ∈ t := by
  by_cases h : t.getLast? = some '\r'
  · obtain ⟨text, rfl⟩ := List.getLast?_eq_some_iff.mp h
    exact ⟨text, ['\r', '\n'], by simp, .returned, fun c hc => List.mem_append_left _ hc⟩
  · exact ⟨t, ['\n'], rfl, .newline h, fun _ hc => hc⟩

theorem exists_lastEnd {t : Text} (hn : t ≠ []) :
    ∃ text ending, t = text ++ ending ∧ LastEnd text ending ∧ ∀ c ∈ text, c ∈ t := by
  by_cases h : t.getLast? = some '\r'
  · obtain ⟨text, rfl⟩ := List.getLast?_eq_some_iff.mp h
    exact ⟨text, ['\r'], rfl, .returned, fun c hc => List.mem_append_left _ hc⟩
  · exact ⟨t, [], by simp, .nothing hn h, fun _ hc => hc⟩

theorem exists_lined (offset : Nat) (source : Text) : ∃ lines, Lined offset source lines := by
  induction hn : source.length using Nat.strongRecOn generalizing offset source with
  | _ n ih =>
    by_cases hs : source = []
    · exact ⟨[], hs ▸ .nil offset⟩
    by_cases hm : '\n' ∈ source
    · obtain ⟨before, rest, rfl, hb⟩ := List.eq_append_cons_of_mem hm
      obtain ⟨text, ending, he, hend, hsub⟩ := exists_lineEnd before
      obtain ⟨lines, hl⟩ := ih rest.length (by simp [← hn]; omega) (offset + (text ++ ending).size)
        rest rfl
      have hsource : before ++ '\n' :: rest = text ++ ending ++ rest := by simp [← he]
      rw [hsource]
      exact ⟨_, .cons (fun h => hb (hsub _ h)) hend hl⟩
    · obtain ⟨text, ending, he, hend, hsub⟩ := exists_lastEnd hs
      rw [he]
      exact ⟨_, .last (fun h => hm (hsub _ h)) hend⟩

/-- Cutting a source after its newlines and removing the ends of lines gives its lines. -/
theorem lined_iff {offset : Nat} {source : Text} {lines : List Line} :
    Lined offset source lines ↔ lines = linesAt offset (cutLines source) := by
  refine ⟨Lined.eq_linesAt, ?_⟩
  rintro rfl
  obtain ⟨lines, hl⟩ := exists_lined offset source
  exact hl.eq_linesAt ▸ hl

theorem newline_notMem_of_mem_lines {source : Text} {line : Line} (h : line ∈ lines source) :
    '\n' ∉ line.text := by
  have hlined : Lined 0 source (lines source) := lined_iff.mpr rfl
  generalize lines source = found at h hlined
  generalize 0 = offset at hlined
  induction hlined with
  | nil => cases h
  | last inner => rwa [List.mem_singleton.mp h]
  | cons inner _ _ ih =>
    rcases List.mem_cons.mp h with rfl | h
    · exact inner
    · exact ih h

/-! ## Texts one after the other -/

theorem flatten_cutLines (t : Text) : (cutLines t).flatten = t := by
  induction t using line_induction with
  | nil => rfl
  | last t hn hne => simp [cutLines_of_notMem hn hne]
  | cons t rest hn ih => simp [cutLines_append hn, ih]

/-- A text that does not end inside a line has its lines, whatever follows it. -/
theorem cutLines_append_of_ended {a : Text} (h : a = [] ∨ a.getLast? = some '\n') (b : Text) :
    cutLines (a ++ b) = cutLines a ++ cutLines b := by
  induction a using line_induction with
  | nil => rfl
  | last t hn hne => exact absurd (List.mem_of_getLast? (h.resolve_left hne)) hn
  | cons t rest hn ih =>
    have hrest : rest = [] ∨ rest.getLast? = some '\n' := by
      have hlast := h.resolve_left (by simp)
      rw [List.getLast?_append, List.getLast?_cons, Option.some_or] at hlast
      cases hr : rest.getLast? with
      | none => exact .inl (List.getLast?_eq_none_iff.mp hr)
      | some c => exact .inr (by simpa [hr] using hlast)
    rw [List.append_assoc, List.cons_append, cutLines_append hn, cutLines_append hn, ih hrest,
      List.cons_append]

theorem linesAt_append (offset : Nat) (first second : List Text) :
    linesAt offset (first ++ second) =
      linesAt offset first ++ linesAt (offset + size first.flatten) second := by
  induction first generalizing offset with
  | nil => rfl
  | cons piece first ih => simp [linesAt, ih, Nat.add_assoc]

theorem linesAt_shift (n offset : Nat) (pieces : List Text) :
    linesAt (n + offset) pieces = (linesAt offset pieces).map (Line.shift n) := by
  induction pieces generalizing offset with
  | nil => rfl
  | cons piece pieces ih =>
    simp only [linesAt, List.map_cons, Nat.add_assoc, ih, Line.shift, Nat.add_comm offset n]

theorem lines_append {a : Text} (h : a = [] ∨ a.getLast? = some '\n') (b : Text) :
    lines (a ++ b) = lines a ++ (lines b).map (Line.shift a.size) := by
  simp only [lines]
  rw [cutLines_append_of_ended h, linesAt_append, flatten_cutLines, Nat.zero_add]
  exact congrArg _ (linesAt_shift a.size 0 (cutLines b))

/-! ## Slices -/

/-- A text that begins with `c` is not empty, and its size without `c` is that of the rest. -/
theorem exists_size_cons (c : Char) (a : Text) :
    ∃ n, size (c :: a) = n + 1 ∧ c.utf8Size ≤ n + 1 ∧ n + 1 - c.utf8Size = size a := by
  have hpos := c.utf8Size_pos
  refine ⟨c.utf8Size + size a - 1, ?_, ?_, ?_⟩
  · rw [size_cons]
    omega
  · omega
  · omega

theorem dropBytes?_append (a b : Text) : dropBytes? a.size (a ++ b) = some b := by
  induction a with
  | nil => simp [dropBytes?]
  | cons c a ih =>
    obtain ⟨n, hn, hle, hsub⟩ := exists_size_cons c a
    rw [hn, List.cons_append, dropBytes?, if_pos hle, hsub, ih]

theorem takeBytes?_append (a b : Text) : takeBytes? a.size (a ++ b) = some a := by
  induction a with
  | nil => simp [takeBytes?]
  | cons c a ih =>
    obtain ⟨n, hn, hle, hsub⟩ := exists_size_cons c a
    rw [hn, List.cons_append, takeBytes?, if_pos hle, hsub, ih, Option.map_some]

/-- A span that covers the middle of a text gives it back. -/
theorem slice?_append (a b c : Text) : slice? (a ++ b ++ c) ⟨a.size, a.size + b.size⟩ = some b := by
  rw [slice?, if_pos (Nat.le_add_right _ _), List.append_assoc, dropBytes?_append, Option.bind_some,
    Nat.add_sub_cancel_left, takeBytes?_append]

theorem Lined.slice {offset : Nat} {source before : Text} {lines : List Line}
    (h : Lined offset source lines) (hb : before.size = offset) {line : Line} (hl : line ∈ lines) :
    slice? (before ++ source) line.span = some line.text := by
  induction h generalizing before with
  | nil => simp at hl
  | last inner ends =>
    obtain rfl := List.mem_singleton.mp hl
    subst hb
    rw [← List.append_assoc]
    exact slice?_append _ _ _
  | @cons offset text ending rest lines inner ends after ih =>
    rcases List.mem_cons.mp hl with rfl | hl
    · subst hb
      have hs : before ++ (text ++ ending ++ rest) = before ++ text ++ (ending ++ rest) := by simp
      rw [hs]
      exact slice?_append _ _ _
    · have hs : before ++ (text ++ ending ++ rest) = before ++ (text ++ ending) ++ rest := by simp
      rw [hs]
      exact ih (by rw [size_append, hb]) hl

/-- The span of a line of a source covers its text. -/
theorem slice?_of_mem_lines {source : Text} {line : Line} (h : line ∈ lines source) :
    slice? source line.span = some line.text := by
  have hsource : Lined 0 source (lines source) := lined_iff.mpr rfl
  have hempty : size [] = 0 := rfl
  exact hsource.slice hempty h

end Text
end Snippetry
