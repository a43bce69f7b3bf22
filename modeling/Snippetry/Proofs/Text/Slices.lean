import Snippetry.Proofs.Text.Lines

/-! # Slices of a source, and the lines among them

A slice lies between two places where characters of the source begin. The lines of a source follow each
other with at least a byte between them, and what goes from one line to a later one is a slice that
begins with the first line and ends with the last. -/
namespace Snippetry.Text

theorem exists_append_of_dropBytes? {n : Nat} {t rest : Text} (h : dropBytes? n t = some rest) :
    ∃ before, t = before ++ rest ∧ before.size = n := by
  fun_induction dropBytes? n t with
  | case1 t =>
    obtain rfl := Option.some.inj h
    exact ⟨[], rfl, rfl⟩
  | case2 => cases h
  | case3 n c t hle ih =>
    obtain ⟨before, rfl, hsize⟩ := ih h
    exact ⟨c :: before, rfl, by rw [size_cons, hsize]; omega⟩
  | case4 => cases h

theorem exists_append_of_takeBytes? {n : Nat} {t taken : Text} (h : takeBytes? n t = some taken) :
    ∃ after, t = taken ++ after ∧ taken.size = n := by
  fun_induction takeBytes? n t generalizing taken with
  | case1 t =>
    obtain rfl := Option.some.inj h
    exact ⟨t, rfl, rfl⟩
  | case2 => cases h
  | case3 n c t hle ih =>
    obtain ⟨taken', htaken, rfl⟩ := Option.map_eq_some_iff.mp h
    obtain ⟨after, rfl, hsize⟩ := ih htaken
    exact ⟨after, rfl, by rw [size_cons, hsize]; omega⟩
  | case4 => cases h

/-- A slice is a part of the source, and its span counts the bytes before it and in it. -/
theorem slice?_eq_some_iff {source t : Text} {span : Span} : slice? source span = some t ↔
    ∃ before after, source = before ++ t ++ after ∧ span = ⟨before.size, before.size + t.size⟩ := by
  constructor
  · intro h
    obtain ⟨start, stop⟩ := span
    unfold slice? at h
    split at h
    · next hle =>
      obtain ⟨rest, hdrop, htake⟩ := Option.bind_eq_some_iff.mp h
      obtain ⟨before, rfl, hbefore⟩ := exists_append_of_dropBytes? hdrop
      obtain ⟨after, rfl, ht⟩ := exists_append_of_takeBytes? htake
      refine ⟨before, after, by rw [List.append_assoc], ?_⟩
      dsimp only at hle hbefore ht
      rw [hbefore, ht, Nat.add_sub_cancel' hle]
    · cases h
  · rintro ⟨before, after, rfl, rfl⟩
    exact slice?_append before t after

theorem le_of_slice? {source t : Text} {span : Span} (h : slice? source span = some t) :
    span.start ≤ span.stop ∧ span.stop ≤ source.size := by
  obtain ⟨before, after, rfl, rfl⟩ := slice?_eq_some_iff.mp h
  simp only [size_append]
  omega

/-! ## The order of lines -/

theorem LineEnd.getLast? {text ending : Text} (h : LineEnd text ending) :
    ending.getLast? = some '\n' := by
  cases h <;> rfl

theorem LineEnd.size_pos {text ending : Text} (h : LineEnd text ending) : 0 < ending.size := by
  cases h <;> decide

theorem Lined.le_start {offset : Nat} {source : Text} {lines : List Line}
    (h : Lined offset source lines) {line : Line} (hl : line ∈ lines) : offset ≤ line.start := by
  induction h with
  | nil => cases hl
  | last =>
    obtain rfl := List.mem_singleton.mp hl
    exact Nat.le_refl _
  | cons inner ends after ih =>
    rcases List.mem_cons.mp hl with rfl | hl
    · exact Nat.le_refl _
    · exact (Nat.le_add_right _ _).trans (ih hl)

theorem Lined.apart {offset : Nat} {source : Text} {lines : List Line} (h : Lined offset source lines) :
    lines.Pairwise fun a b => a.span.stop < b.span.start := by
  induction h with
  | nil => exact .nil
  | last => exact List.pairwise_singleton _ _
  | cons inner ends after ih =>
    refine List.pairwise_cons.mpr ⟨fun line hl => ?_, ih⟩
    have hstart := after.le_start hl
    have hend := ends.size_pos
    rw [size_append] at hstart
    simp only [Line.span]
    omega

/-- Every line ends before the next one begins. -/
theorem lines_apart (source : Text) :
    (lines source).Pairwise fun a b => a.span.stop < b.span.start :=
  (lined_iff.mpr rfl : Lined 0 source (lines source)).apart

/-! ## From line to line -/

theorem Lined.exists_text_append {offset : Nat} {source : Text} {line : Line} {rest : List Line}
    (h : Lined offset source (line :: rest)) :
    line.start = offset ∧ '\n' ∉ line.text ∧ ∃ after, source = line.text ++ after := by
  cases h with
  | last inner => exact ⟨rfl, inner, _, rfl⟩
  | cons inner => exact ⟨rfl, inner, _, List.append_assoc ..⟩

/-- A source can be cut where one of its lines begins; what comes before, if it is anything, ends with a
newline. -/
theorem Lined.exists_cut {offset : Nat} {source : Text} {first rest : List Line} {line : Line}
    (h : Lined offset source (first ++ line :: rest)) :
    ∃ before after, source = before ++ after ∧ Lined (offset + before.size) after (line :: rest) ∧
      (before = [] ∨ before.getLast? = some '\n') := by
  induction first generalizing offset source with
  | nil => exact ⟨[], source, rfl, h, .inl rfl⟩
  | cons l first ih =>
    generalize hlines : l :: first ++ line :: rest = lines at h
    cases h with
    | nil => cases hlines
    | last => simp at hlines
    | @cons _ text ending rest' lines inner ends after =>
      obtain ⟨-, rfl⟩ := List.cons.inj hlines
      obtain ⟨before, after', rfl, hlined, hlast⟩ := ih after
      refine ⟨text ++ ending ++ before, after', by simp, ?_, .inr ?_⟩
      · rwa [size_append, ← Nat.add_assoc]
      · rcases hlast with rfl | hlast
        · rw [List.append_nil, List.getLast?_append, ends.getLast?, Option.some_or]
        · rw [List.getLast?_append, hlast, Option.some_or]

/-- What goes from one line to a later one begins with the first and ends with the other. -/
theorem exists_slice_of_lines {source : Text} {before body after : List Line} {first last : Line}
    (h : lines source = before ++ first :: (body ++ last :: after)) : ∃ between,
      slice? source ⟨first.start, last.span.stop⟩ = some (first.text ++ between ++ '\n' :: last.text) := by
  have hsource : Lined 0 source (before ++ first :: (body ++ last :: after)) := lined_iff.mpr h.symm
  obtain ⟨start, rest, rfl, hfirst, -⟩ := hsource.exists_cut
  generalize hlines : first :: (body ++ last :: after) = found at hfirst
  cases hfirst with
  | nil => cases hlines
  | last => simp at hlines
  | @cons _ text ending rest _ inner ends following =>
    obtain ⟨rfl, rfl⟩ := List.cons.inj hlines
    obtain ⟨middle, rest, rfl, hlast, hmiddle⟩ := following.exists_cut
    obtain ⟨hstart, -, tail, rfl⟩ := hlast.exists_text_append
    have hnewline : (ending ++ middle).getLast? = some '\n' := by
      rcases hmiddle with rfl | hmiddle
      · rw [List.append_nil, ends.getLast?]
      · rw [List.getLast?_append, hmiddle, Option.some_or]
    obtain ⟨between, hbetween⟩ := List.getLast?_eq_some_iff.mp hnewline
    refine ⟨between, slice?_eq_some_iff.mpr ⟨start, tail, ?_, ?_⟩⟩
    · have hmid : text ++ between ++ '\n' :: last.text = text ++ (ending ++ middle) ++ last.text := by
        rw [hbetween]
        simp
      rw [hmid]
      simp
    · have hsize : (ending ++ middle).size = size between + 1 := by
        rw [hbetween, size_append]
        rfl
      have hnl : '\n'.utf8Size = 1 := rfl
      rw [size_append] at hsize
      simp only [Line.span, hstart, size_append, size_cons, hnl, Span.mk.injEq]
      omega

/-- What goes from a line to the end of the source is a slice. -/
theorem exists_slice_to_end {source : Text} {line : Line} (h : line ∈ lines source) :
    ∃ t, slice? source ⟨line.start, source.size⟩ = some t := by
  obtain ⟨before, after, hsource, hspan⟩ := slice?_eq_some_iff.mp (slice?_of_mem_lines h)
  have hstart : line.start = before.size := congrArg Span.start hspan
  refine ⟨line.text ++ after, slice?_eq_some_iff.mpr ⟨before, [], by simp [hsource], ?_⟩⟩
  simp only [hstart, hsource, size_append, Nat.add_assoc]

end Snippetry.Text
