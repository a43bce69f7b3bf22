import Snippetry.Proofs.Text.Slices

/-! # Numbers of lines: newlines are counted as lines are cut

The number of a line is found by counting the newlines before an offset, without a look at where the
lines are. Up to the end of its text, every offset in a line has the number of the line. -/
namespace Snippetry.Text

variable {t after : Text} {n : Nat}

theorem newlinesBefore_zero (t : Text) : newlinesBefore 0 t = 0 := by
  cases t <;> rfl

/-- Further on than a part of a text the newlines in that part all count. -/
theorem newlinesBefore_append (before after : Text) (n : Nat) :
    newlinesBefore (before.size + n) (before ++ after) = before.count '\n' + newlinesBefore n after := by
  induction before with
  | nil => simp
  | cons c before ih =>
    have hpos := c.utf8Size_pos
    have hne : size (c :: before) + n ≠ 0 := by
      rw [size_cons]
      omega
    have hsub : size (c :: before) + n - c.utf8Size = size before + n := by
      rw [size_cons]
      omega
    rw [List.cons_append, newlinesBefore, if_neg hne, hsub, ih, List.count_cons, ← Nat.add_assoc]
    simp [Nat.add_comm]

theorem newlinesBefore_size (before after : Text) :
    newlinesBefore before.size (before ++ after) = before.count '\n' := by
  simpa [newlinesBefore_zero] using newlinesBefore_append before after 0

theorem newlinesBefore_of_size_le (h : t.size ≤ n) : newlinesBefore n t = t.count '\n' := by
  have happend := newlinesBefore_append t [] (n - t.size)
  rw [List.append_nil, Nat.add_sub_cancel' h] at happend
  rw [happend, newlinesBefore, Nat.add_zero]

/-- Inside a character that takes more than one byte no newline begins. -/
theorem newlinesBefore_of_notMem (h : '\n' ∉ t) (after : Text) (hn : n ≤ t.size) :
    newlinesBefore n (t ++ after) = 0 := by
  induction t generalizing n with
  | nil =>
    obtain rfl : n = 0 := Nat.le_zero.mp hn
    exact newlinesBefore_zero after
  | cons c t ih =>
    obtain ⟨hc, ht⟩ := not_or.mp (mt List.mem_cons.mpr h)
    have hrest : n - c.utf8Size ≤ size t := by
      rw [size_cons] at hn
      omega
    rw [List.cons_append, newlinesBefore]
    split_ifs with hzero hnewline
    · rfl
    · exact absurd hnewline.symm hc
    · rw [ih ht hrest]

theorem LineEnd.count {text ending : Text} (h : LineEnd text ending) : ending.count '\n' = 1 := by
  cases h <;> decide

/-- The newlines before a line are the ends of the lines before it. -/
theorem Lined.newlinesBefore_eq {offset : Nat} {source : Text} {lines : List Line}
    (h : Lined offset source lines) {k : Nat} {line : Line} (hk : lines[k]? = some line) {o : Nat}
    (hstart : line.start ≤ offset + o) (hstop : offset + o ≤ line.start + line.text.size) :
    newlinesBefore o source = k := by
  induction h generalizing k o with
  | nil => cases hk
  | @last offset text ending inner ends =>
    cases k with
    | zero =>
      obtain rfl : ⟨offset, text⟩ = line := Option.some.inj hk
      exact newlinesBefore_of_notMem inner ending (Nat.le_of_add_le_add_left hstop)
    | succ k => cases hk
  | @cons offset text ending rest lines inner ends after ih =>
    cases k with
    | zero =>
      obtain rfl : ⟨offset, text⟩ = line := Option.some.inj hk
      rw [List.append_assoc]
      exact newlinesBefore_of_notMem inner _ (Nat.le_of_add_le_add_left hstop)
    | succ k =>
      rw [List.getElem?_cons_succ] at hk
      have hafter := after.le_start (List.mem_of_getElem? hk)
      obtain ⟨n, rfl⟩ : ∃ n, o = size (text ++ ending) + n := Nat.exists_eq_add_of_le (by omega)
      have hrest : newlinesBefore n rest = k := ih hk (by omega) (by omega)
      have hcount : (text ++ ending).count '\n' = 1 := by
        rw [List.count_append, List.count_eq_zero_of_not_mem inner, ends.count]
      rw [newlinesBefore_append, hcount, hrest, Nat.add_comm]

/-- Every offset in the text of a line, and the one at its end, has the number of the line. -/
theorem lineNumber_of_lines {source : Text} {k : Nat} {line : Line}
    (hk : (lines source)[k]? = some line) {o : Nat} (hstart : line.start ≤ o)
    (hstop : o ≤ line.start + line.text.size) : lineNumber source o = k + 1 := by
  have hlined : Lined 0 source (lines source) := lined_iff.mpr rfl
  rw [lineNumber, hlined.newlinesBefore_eq hk (by omega) (by omega)]

theorem lineNumber_of_size_le {source : Text} {o : Nat} (h : source.size ≤ o) :
    lineNumber source o = lineNumber source source.size := by
  rw [lineNumber, lineNumber, newlinesBefore_of_size_le h, newlinesBefore_of_size_le le_rfl]

end Snippetry.Text
