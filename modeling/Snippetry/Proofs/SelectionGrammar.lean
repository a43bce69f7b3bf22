import Mathlib.Data.List.Forall2
import Snippetry.Proofs.Fence.Printing
import Snippetry.Proofs.Text.Decimal
import Snippetry.Proofs.Text.Segments
import Snippetry.Selection

/-! # What selections look like

A selection is the word `all`, or numerals between commas. Blanks around each of them are passed over,
and the first piece that is no number of a snippet says what is wrong with all of it. -/
namespace Snippetry

/-! ## Reading one piece after the other -/

section Pieces

variable {α β ε : Type} {f : α → Except ε β}

theorem mapM_eq_ok_iff {as : List α} {bs : List β} :
    as.mapM f = .ok bs ↔ List.Forall₂ (fun a b => f a = .ok b) as bs := by
  induction as generalizing bs with
  | nil => cases bs <;> simp [pure, Except.pure]
  | cons a as ih =>
    rw [List.mapM_cons]
    cases bs with
    | nil => cases f a <;> cases as.mapM f <;> simp [bind, Except.bind, pure, Except.pure]
    | cons b bs =>
      rw [List.forall₂_cons, ← ih]
      cases f a <;> cases as.mapM f <;> simp [bind, Except.bind, pure, Except.pure]

theorem exists_forall₂_iff {R : α → β → Prop} {as : List α} :
    (∃ bs, List.Forall₂ R as bs) ↔ ∀ a ∈ as, ∃ b, R a b := by
  induction as with
  | nil => exact iff_of_true ⟨[], .nil⟩ (by simp)
  | cons a as ih =>
    rw [List.forall_mem_cons, ← ih]
    constructor
    · rintro ⟨bs, h⟩
      cases h with
      | cons h hs => exact ⟨⟨_, h⟩, _, hs⟩
    · rintro ⟨⟨b, h⟩, bs, hs⟩
      exact ⟨b :: bs, .cons h hs⟩

/-- The first piece that cannot be read decides. -/
theorem mapM_eq_error_iff {as : List α} {e : ε} : as.mapM f = .error e ↔
    ∃ before a after, as = before ++ a :: after ∧ (∀ b ∈ before, ∃ y, f b = .ok y) ∧
      f a = .error e := by
  induction as with
  | nil =>
    constructor
    · intro h
      cases h
    · rintro ⟨before, a, after, h, -⟩
      cases before <;> cases h
  | cons a as ih =>
    rw [List.mapM_cons]
    cases ha : f a with
    | error e' =>
      constructor
      · intro h
        obtain rfl := Except.error.inj h
        exact ⟨[], a, as, rfl, by simp, ha⟩
      · rintro ⟨before, a', after, h, hbefore, ha'⟩
        cases before with
        | nil =>
          obtain ⟨rfl, rfl⟩ := List.cons.inj h
          obtain rfl := Except.error.inj (ha.symm.trans ha')
          rfl
        | cons b before =>
          obtain ⟨rfl, rfl⟩ := List.cons.inj h
          obtain ⟨y, hy⟩ := hbefore a List.mem_cons_self
          cases ha.symm.trans hy
    | ok b =>
      have hrest : (do let b ← (.ok b : Except ε β); let bs ← as.mapM f; pure (b :: bs)) = .error e ↔
          as.mapM f = .error e := by
        cases as.mapM f with
        | error e' => exact Iff.rfl
        | ok bs => exact iff_of_false (fun h => by cases h) (fun h => by cases h)
      rw [hrest, ih]
      constructor
      · rintro ⟨before, a', after, rfl, hbefore, ha'⟩
        refine ⟨a :: before, a', after, rfl, ?_, ha'⟩
        exact List.forall_mem_cons.mpr ⟨⟨b, ha⟩, hbefore⟩
      · rintro ⟨before, a', after, h, hbefore, ha'⟩
        cases before with
        | nil =>
          obtain ⟨rfl, rfl⟩ := List.cons.inj h
          cases ha.symm.trans ha'
        | cons c before =>
          obtain ⟨rfl, rfl⟩ := List.cons.inj h
          exact ⟨before, a', after, rfl, (List.forall_mem_cons.mp hbefore).2, ha'⟩

end Pieces

namespace Text

/-- Trimming takes off the blanks around a text without blanks. -/
theorem trim_surrounded {before t after : Text} (hn : t ≠ []) (ht : ∀ c ∈ t, isBlank c = false)
    (hb : ∀ c ∈ before, isBlank c = true) (ha : ∀ c ∈ after, isBlank c = true) :
    trim (before ++ t ++ after) = t := by
  have hstart : trimStart (before ++ t ++ after) = t ++ after := by
    rw [trimStart, List.append_assoc]
    refine Plain.dropWhile_append_of_head hb ?_
    rw [List.head?_append_of_ne_nil t hn]
    exact fun c hc => ht c (List.mem_of_mem_head? hc)
  have hend : ((t ++ after).reverse.dropWhile isBlank) = t.reverse := by
    rw [List.reverse_append]
    refine Plain.dropWhile_append_of_head ?_ ?_
    · exact fun c hc => ha c (List.mem_reverse.mp hc)
    · exact fun c hc => ht c (List.mem_reverse.mp (List.mem_of_mem_head? hc))
  rw [trim, hstart, trimEnd, hend, List.reverse_reverse]

end Text

/-! ## Pieces -/

namespace SnippetId

/-- A piece names a snippet: what is left without the blanks around it is a numeral of 32 bits, and
not zero. -/
def Named (piece : Text) : Prop := ∃ n, Text.Numeral (Text.trim piece) n ∧ 1 ≤ n ∧ n ≤ 4294967295

def Refuses (piece : Text) (e : SelectError) : Prop :=
  (Text.OnlyZeros (Text.trim piece) ∧ e = .zeroId) ∨
    (¬ Text.OnlyZeros (Text.trim piece) ∧ e = .invalidId piece)

variable {piece : Text}

theorem parse_eq_ok_iff (piece : Text) (id : SnippetId) :
    parse piece = .ok id ↔ Text.Numeral (Text.trim piece) id.value := by
  have hpositive := id.positive
  have hbounded := id.bounded
  rw [parse]
  cases hread : Text.toBounded? 4294967295 (Text.trim piece) with
  | none =>
    refine iff_of_false (fun h => by cases h) ?_
    exact Text.toBounded?_eq_none_iff.mp hread id.value (by omega)
  | some n =>
    obtain ⟨hnumeral, hle⟩ := Text.toBounded?_eq_some_iff.mp hread
    dsimp only
    constructor
    · intro h
      split at h
      · obtain rfl := Except.ok.inj h
        exact hnumeral
      · cases h
    · intro h
      obtain rfl := hnumeral.unique h
      rw [dif_pos ⟨hpositive, hbounded⟩]

theorem exists_parse_iff : (∃ id, parse piece = .ok id) ↔ Named piece := by
  constructor
  · rintro ⟨id, h⟩
    have hpositive := id.positive
    have hbounded := id.bounded
    exact ⟨id.value, (parse_eq_ok_iff piece id).mp h, by omega, by omega⟩
  · rintro ⟨n, hnumeral, hpositive, hbounded⟩
    exact ⟨⟨n, by omega, by omega⟩, (parse_eq_ok_iff piece _).mpr hnumeral⟩

theorem parse_eq_error_iff (e : SelectError) :
    parse piece = .error e ↔ ¬ Named piece ∧ Refuses piece e := by
  rw [← exists_parse_iff, Refuses, ← Text.numeral_zero_iff]
  rw [parse]
  cases hread : Text.toBounded? 4294967295 (Text.trim piece) with
  | none =>
    have hzero := Text.toBounded?_eq_none_iff.mp hread 0 (by decide)
    simp [hzero, eq_comm]
  | some n =>
    obtain ⟨hnumeral, hle⟩ := Text.toBounded?_eq_some_iff.mp hread
    by_cases hpositive : 0 < n
    · have hrange : 0 < n ∧ n < 4294967296 := ⟨hpositive, by omega⟩
      simp [hrange]
    · obtain rfl : n = 0 := by omega
      simp [hnumeral, eq_comm]

end SnippetId

/-! ## Selections -/

namespace Selection

variable {t : Text}

theorem parse_of_all (h : Text.trim t = ("all" : Text)) : parse t = .ok all := by
  rw [parse, if_pos h]

theorem parse_of_ne_all (h : Text.trim t ≠ ("all" : Text)) :
    parse t = ((Text.splitOn ',' t).mapM SnippetId.parse).map ids := by
  rw [parse, if_neg h]

def Lists (t : Text) (l : List SnippetId) : Prop :=
  List.Forall₂ (fun piece id => Text.Numeral (Text.trim piece) id.value) (Text.splitOn ',' t) l

def Faults (t : Text) (e : SelectError) : Prop :=
  ∃ before piece after, Text.splitOn ',' t = before ++ piece :: after ∧
    (∀ p ∈ before, SnippetId.Named p) ∧ ¬ SnippetId.Named piece ∧ SnippetId.Refuses piece e

/-- How a text is read, by what it looks like. -/
structure ReadsAs (t : Text) : Prop where
  all : parse t = .ok .all ↔ Text.trim t = ("all" : Text)
  named : (∃ l, parse t = .ok (.ids l)) ↔
    Text.trim t ≠ ("all" : Text) ∧ ∀ piece ∈ Text.splitOn ',' t, SnippetId.Named piece
  ids : ∀ l, parse t = .ok (.ids l) ↔ Text.trim t ≠ ("all" : Text) ∧ Lists t l
  refused : ∀ e, parse t = .error e ↔ Text.trim t ≠ ("all" : Text) ∧ Faults t e

theorem parse_eq_all_iff : parse t = .ok .all ↔ Text.trim t = ("all" : Text) := by
  by_cases hall : Text.trim t = ("all" : Text)
  · rw [parse_of_all hall]
    exact iff_of_true rfl hall
  · refine iff_of_false ?_ hall
    rw [parse_of_ne_all hall]
    cases (Text.splitOn ',' t).mapM SnippetId.parse <;> simp [Except.map]

theorem parse_eq_ids_iff (l : List SnippetId) :
    parse t = .ok (.ids l) ↔ Text.trim t ≠ ("all" : Text) ∧ Lists t l := by
  by_cases hall : Text.trim t = ("all" : Text)
  · rw [parse_of_all hall]
    exact iff_of_false (fun h => by cases h) fun h => h.1 hall
  · have hpieces : (Text.splitOn ',' t).mapM SnippetId.parse = .ok l ↔ Lists t l := by
      simp only [mapM_eq_ok_iff, SnippetId.parse_eq_ok_iff, Lists]
    rw [parse_of_ne_all hall, and_iff_right hall, ← hpieces]
    cases (Text.splitOn ',' t).mapM SnippetId.parse <;> simp [Except.map]

theorem parse_eq_error_iff (e : SelectError) :
    parse t = .error e ↔ Text.trim t ≠ ("all" : Text) ∧ Faults t e := by
  by_cases hall : Text.trim t = ("all" : Text)
  · rw [parse_of_all hall]
    exact iff_of_false (fun h => by cases h) fun h => h.1 hall
  · have hpieces : (Text.splitOn ',' t).mapM SnippetId.parse = .error e ↔ Faults t e := by
      simp only [mapM_eq_error_iff, SnippetId.exists_parse_iff, SnippetId.parse_eq_error_iff, Faults]
    rw [parse_of_ne_all hall, and_iff_right hall, ← hpieces]
    cases (Text.splitOn ',' t).mapM SnippetId.parse <;> simp [Except.map]

/-- A text lists some numbers if each of its pieces names a snippet. -/
theorem exists_lists_iff : (∃ l, Lists t l) ↔ ∀ piece ∈ Text.splitOn ',' t, SnippetId.Named piece := by
  simp only [Lists, ← SnippetId.parse_eq_ok_iff, exists_forall₂_iff, SnippetId.exists_parse_iff]

theorem readsAs (t : Text) : ReadsAs t := by
  constructor
  · exact parse_eq_all_iff
  · simp only [parse_eq_ids_iff, exists_and_left, exists_lists_iff]
  · exact parse_eq_ids_iff
  · exact parse_eq_error_iff

/-! ## Writing -/

def Writes (piece : Text) (id : SnippetId) : Prop :=
  ∃ before after, (∀ c ∈ before, isBlank c = true) ∧ (∀ c ∈ after, isBlank c = true) ∧
    piece = before ++ id.toText ++ after

theorem isBlank_of_isDigit {c : Char} (h : c.isDigit = true) : isBlank c = false := by
  obtain ⟨hlow, hhigh⟩ := Text.isDigit_iff.mp h
  have hlow' : 48 ≤ c.toNat := hlow
  have hhigh' : c.toNat ≤ 57 := hhigh
  simp only [isBlank, decide_eq_false_iff_not]
  omega

variable {id : SnippetId} {piece : Text}

theorem Writes.isBlank_or_isDigit (h : Writes piece id) {c : Char} (hc : c ∈ piece) :
    isBlank c = true ∨ c.isDigit = true := by
  obtain ⟨before, after, hb, ha, rfl⟩ := h
  rcases List.mem_append.mp hc with hc | hc
  · rcases List.mem_append.mp hc with hc | hc
    · exact .inl (hb c hc)
    · exact .inr ((Text.decimal_ofNat id.value).digits c hc)
  · exact .inl (ha c hc)

theorem Writes.numeral (h : Writes piece id) : Text.Numeral (Text.trim piece) id.value := by
  obtain ⟨before, after, hb, ha, rfl⟩ := h
  have hdecimal := Text.decimal_ofNat id.value
  have hblank : ∀ c ∈ id.toText, isBlank c = false := by
    intro c hc
    exact isBlank_of_isDigit (hdecimal.digits c hc)
  have htrim : Text.trim (before ++ id.toText ++ after) = id.toText :=
    Text.trim_surrounded hdecimal.nonempty hblank hb ha
  rw [htrim]
  exact .unsigned hdecimal

/-- Numbers that are written one after the other are read as they were. -/
theorem parse_join {ids : List SnippetId} {pieces : List Text} (hn : ids ≠ [])
    (h : List.Forall₂ Writes pieces ids) : parse (Text.join "," pieces) = .ok (.ids ids) := by
  have hpieces : ∀ piece ∈ pieces, ∀ c ∈ piece, isBlank c = true ∨ c.isDigit = true := by
    refine ((List.forall₂_and_left (R := Writes) pieces ids).mp ?_).1
    exact h.imp fun _ _ hwrites => ⟨fun _ hc => hwrites.isBlank_or_isDigit hc, hwrites⟩
  have hsplit : Text.splitOn ',' (Text.join "," pieces) = pieces := by
    refine Text.splitOn_join ?_ ?_
    · rintro rfl
      exact hn (List.forall₂_nil_left_iff.mp h)
    · intro piece hpiece hcomma
      exact absurd (hpieces piece hpiece ',' hcomma) (by decide)
  have hall : Text.trim (Text.join "," pieces) ≠ ("all" : Text) := by
    intro htrim
    have hmem : 'a' ∈ Text.join "," pieces := by
      refine Text.mem_of_mem_trim ?_
      rw [htrim]
      decide
    rcases Text.mem_of_mem_join hmem with heq | ⟨piece, hpiece, hc⟩
    · exact absurd heq (by decide)
    · exact absurd (hpieces piece hpiece 'a' hc) (by decide)
  rw [parse_eq_ids_iff, Lists, hsplit]
  exact ⟨hall, h.imp fun _ _ hwrites => hwrites.numeral⟩

/-- A selection is read as what it looks like, and what lists numbers of snippets looks like it. -/
theorem parse_grammar : (∀ t, ReadsAs t) ∧
    ∀ (ids : List SnippetId) (pieces : List Text), ids ≠ [] → List.Forall₂ Writes pieces ids →
      parse (Text.join "," pieces) = .ok (.ids ids) :=
  ⟨readsAs, fun _ _ hn h => parse_join hn h⟩

/-- The first number and the last one, in blanks of more kinds than one. -/
theorem parse_grammar_ends :
    let ids : List SnippetId := [.first, ⟨4294967295, by decide, by decide⟩]
    let pieces : List Text := [['\x09', '1', '\u00a0'], "4294967295 "]
    ids ≠ [] ∧ List.Forall₂ Writes pieces ids ∧ parse (Text.join "," pieces) = .ok (.ids ids) := by
  intro ids pieces
  have hn : ids ≠ [] := by decide
  have hwrites : List.Forall₂ Writes pieces ids := by
    refine .cons ?_ (.cons ?_ .nil)
    · have htab : ∀ c ∈ ['\x09'], isBlank c = true := List.forall_mem_singleton.mpr rfl
      have hspace : ∀ c ∈ ['\u00a0'], isBlank c = true := List.forall_mem_singleton.mpr rfl
      exact ⟨_, _, htab, hspace, rfl⟩
    · have hspace : ∀ c ∈ [' '], isBlank c = true := List.forall_mem_singleton.mpr rfl
      exact ⟨[], _, by simp, hspace, rfl⟩
  exact ⟨hn, hwrites, parse_grammar.2 ids pieces hn hwrites⟩

/-- One more than the largest number is no zero, whatever comes after it. -/
example : parse "+007,4294967296 ,0" = .error (.invalidId "4294967296 ") := by decide

end Selection
end Snippetry
